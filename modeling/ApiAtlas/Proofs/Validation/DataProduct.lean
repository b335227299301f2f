import ApiAtlas.Proofs.Validation.Parameters
import ApiAtlas.Validation.DataProduct

/-! # Data products and their operation

The data product validator reads the only operation of a document by itself: it takes the text of a reference for
the name of a component, and a parameter for what is written in the list. In an accepted document it comes to what
the operation says, as long as names are not escaped and the two headers are not given by references.
-/

namespace ApiAtlas

namespace Schema

theorem afterStart?_of_componentName? {reference name : String} (named : componentName? reference = some name) :
    ∃ part, Text.afterStart? componentPrefix reference = some part ∧ name = Pointer.unescape part := by
  unfold componentName? at named
  split at named
  · cases named
  · rename_i part start
    split at named
    · cases named
    · exact ⟨part, start, (Option.some.inj named).symm⟩

end Schema

namespace DataProduct

open Operation (dereference?)
open Model.Compiling (jsonSchemaOf?)
open Structure (AcceptedBody)

/-- The response of an operation for 200. -/
def okResponse? (op : Operation) : Option Json := (op.value.get? "responses").bind (·.get? "200")

/-- The headers that a data product takes, in small letters. -/
def requiredHeaders : List String := ["authorization", "x-authorization-provider"]

/-- A document with schemas and without servers, whose only operation is a POST with bodies that are written in
place and without security. -/
structure HasOnePost (doc : Document) (op : Operation) : Prop where
  servers : doc.root.get? "servers" = none
  paths : doc.paths? = some [(op.path, op.item)]
  item : op.item = .object [("post", op.value)]
  key : op.key = .post
  schemas : doc.schemas ≠ []
  security : op.value.get? "security" = none
  request {body : Json} : op.value.get? "requestBody" = some body → body.textAt? "$ref" = none
  response : ∃ body, okResponse? op = some body ∧ body.textAt? "$ref" = none

/-- The schema of the JSON content of a body is a reference to a component. -/
def RefersToComponent (doc : Document) (body : Json) : Prop :=
  ∃ schema reference name, jsonSchemaOf? body = some schema ∧ schema.textAt? "$ref" = some reference ∧
    Schema.componentName? reference = some name ∧ Table.has name doc.schemas

/-- An operation has a header parameter of this name, in whatever letters. -/
def TakesHeader (doc : Document) (op : Operation) (header : String) : Prop :=
  ∃ parameter ∈ op.parameters doc, parameter.place = .header ∧
    Text.sameIgnoringAsciiCase parameter.name header = true

/-- The operation of a document is that of a data product. -/
structure Describes (doc : Document) (op : Operation) : Prop where
  request {body : Json} : op.value.get? "requestBody" = some body → hasContent body = true →
    RefersToComponent doc body
  response : ∃ body, okResponse? op = some body ∧ RefersToComponent doc body
  headers : ∀ header ∈ requiredHeaders, TakesHeader doc op header

/-- A declared parameter has the name of a header that is required, itself or where its reference leads to. -/
def NamesHeader (doc : Document) (entry : Json) : Prop :=
  ∃ object name, (object = entry ∨ dereference? doc entry = some object) ∧ object.textAt? "name" = some name ∧
    Text.asciiLower name ∈ requiredHeaders

/-- The schema of the JSON content of a body is written without escapes, if it is a reference. -/
def Unescaped (body : Json) : Prop :=
  ∀ schema reference name, jsonSchemaOf? body = some schema → schema.textAt? "$ref" = some reference →
    Text.afterStart? Schema.componentPrefix reference = some name → Pointer.unescape name = name

/-- The references and the required headers are written as the validator reads them. -/
structure WrittenPlainly (doc : Document) (op : Operation) : Prop where
  request {body : Json} : op.value.get? "requestBody" = some body → Unescaped body
  response {body : Json} : okResponse? op = some body → Unescaped body
  inPlace : ∀ entry ∈ op.declaredParameters, NamesHeader doc entry → entry.textAt? "$ref" = none
  small : ∀ entry ∈ op.declaredParameters, NamesHeader doc entry → ∀ place, entry.textAt? "in" = some place →
    ParameterPlace.ofText? place = some .header → place = "header"

variable {doc : Document} {op : Operation} {body : Json} {schemas : Table Json}

/-! ## Bodies -/

theorem checkBody_eq_ok_iff : checkBody schemas body = .ok () ↔
    ∃ schema reference name, jsonSchemaOf? body = some schema ∧ schema.textAt? "$ref" = some reference ∧
      Text.afterStart? Schema.componentPrefix reference = some name ∧ Table.has name schemas := by
  constructor
  · intro passes
    unfold checkBody at passes
    split at passes
    · cases passes
    · rename_i media there
      split at passes
      · cases passes
      · rename_i reference written
        obtain ⟨schema, inside, written⟩ := Option.bind_eq_some_iff.mp written
        split at passes
        · cases passes
        · rename_i name start
          split at passes
          · rename_i has
            exact ⟨schema, reference, name, Option.bind_eq_some_iff.mpr ⟨media, there, inside⟩, written, start, has⟩
          · cases passes
  · rintro ⟨schema, reference, name, content, written, start, has⟩
    obtain ⟨media, there, inside⟩ := Option.bind_eq_some_iff.mp content
    rw [Model.Compiling.jsonMediaType] at there
    simp only [checkBody, there, inside, Option.bind_some, written, start, if_pos has]

/-- A body without content has no schema for JSON. -/
theorem hasContent_of_jsonSchemaOf? {schema : Json} (content : jsonSchemaOf? body = some schema) :
    hasContent body = true := by
  obtain ⟨media, there, _⟩ := Option.bind_eq_some_iff.mp content
  obtain ⟨value, written, typed⟩ := Option.bind_eq_some_iff.mp there
  rw [hasContent, written]
  cases value with
  | object fields =>
      cases fields with
      | nil => cases typed
      | cons _ _ => rfl
  | _ => cases typed

/-- In an accepted body the text of a reference is the name of a component. -/
theorem checkBody_eq_ok_iff_refers (accepted : AcceptedBody doc body) (inline : body.textAt? "$ref" = none)
    (plain : Unescaped body) : checkBody doc.schemas body = .ok () ↔ RefersToComponent doc body := by
  rw [checkBody_eq_ok_iff]
  constructor
  · rintro ⟨schema, reference, _, content, written, _, _⟩
    obtain ⟨target, leads, _, schemas⟩ := accepted.leads
    rw [dereference?, inline] at leads
    cases leads
    obtain ⟨_, resolves⟩ := (schemas schema (Json.mem_mediaSchemas content)).resolves
    obtain ⟨name, _, _, named, present, _⟩ := resolves.exists_target written
    exact ⟨schema, reference, name, content, written, named, Table.has_of_get? present⟩
  · rintro ⟨schema, reference, name, content, written, named, present⟩
    obtain ⟨part, start, rfl⟩ := Schema.afterStart?_of_componentName? named
    rw [plain schema reference part content written start] at present
    exact ⟨schema, reference, part, content, written, start, present⟩

/-- A request body without content is not checked, but a response has to have content. -/
theorem checkBodies_eq_ok_iff {op : Operation} : checkBodies schemas op.value = .ok () ↔
    (∀ body, op.value.get? "requestBody" = some body → hasContent body = true → checkBody schemas body = .ok ()) ∧
      ∃ body, okResponse? op = some body ∧ hasContent body = true ∧ checkBody schemas body = .ok () := by
  unfold checkBodies
  extract_lets respond
  have responds (value : Unit) : respond value = .ok () ↔
      ∃ body, okResponse? op = some body ∧ hasContent body = true ∧ checkBody schemas body = .ok () := by
    unfold respond okResponse?
    cases (op.value.get? "responses").bind (·.get? "200") with
    | none => simp [violated]
    | some response => by_cases content : hasContent response = true <;> simp [content, violated]
  cases op.value.get? "requestBody" with
  | none => simp [responds]
  | some body =>
      by_cases content : hasContent body = true
      · cases passes : checkBody schemas body with
        | error violation => simp [content, passes, bind, Except.bind]
        | ok value => simp [content, passes, bind, Except.bind, responds]
      · simp [content, responds]

/-! ## Headers -/

theorem checkHeaders_eq_ok_iff {post : Json} : checkHeaders post = .ok () ↔
    ∀ header ∈ requiredHeaders, header ∈ headerNames post := by
  unfold checkHeaders requiredHeaders
  simp only [Bool.not_eq_true', List.contains_eq_mem, decide_eq_false_iff_not, List.forall_mem_cons,
    List.not_mem_nil, false_imp_iff, implies_true, and_true]
  split
  · rename_i absent
    simp [absent, violated]
  · rename_i present
    split
    · rename_i absent
      simp [absent, violated]
    · rename_i others
      simp_all

theorem mem_headerNames {post : Json} {header : String} : header ∈ headerNames post ↔
    ∃ entry ∈ (post.itemsAt? "parameters").getD [], entry.textAt? "in" = some "header" ∧
      ∃ name, entry.textAt? "name" = some name ∧ Text.asciiLower name = header := by
  rw [headerNames, List.mem_filterMap]
  refine exists_congr fun entry => and_congr_right fun _ => ?_
  by_cases placed : entry.textAt? "in" = some "header"
  · simp [placed]
  · simp [placed]

/-- Only the operation declares parameters, its path item has nothing else. -/
theorem HasOnePost.declaredParameters (only : HasOnePost doc op) :
    op.declaredParameters = (op.value.itemsAt? "parameters").getD [] := by
  rw [Operation.declaredParameters, only.item]
  simp [Json.itemsAt?, Json.get?, Table.get?]

theorem asciiLower_of_mem {header : String} (required : header ∈ requiredHeaders) :
    Text.asciiLower header = header := by
  revert required header
  decide +kernel

/-- The validator finds the required headers that the operation takes. -/
theorem mem_headerNames_iff_takes (only : HasOnePost doc op) (plain : WrittenPlainly doc op) {header : String}
    (required : header ∈ requiredHeaders) : header ∈ headerNames op.value ↔ TakesHeader doc op header := by
  rw [mem_headerNames, ← only.declaredParameters]
  have same (name : String) : Text.sameIgnoringAsciiCase name header = true ↔ Text.asciiLower name = header := by
    rw [Text.sameIgnoringAsciiCase, asciiLower_of_mem required, beq_iff_eq]
  constructor
  -- An entry that names the header is no reference, so what is read is the entry itself, in both directions.
  · rintro ⟨entry, declared, placed, name, named, lower⟩
    have names : NamesHeader doc entry := ⟨entry, name, .inl rfl, named, lower ▸ required⟩
    have inline := plain.inPlace entry declared names
    have known : (entry.textAt? "in").bind ParameterPlace.ofText? = some .header := by
      rw [placed]
      decide +kernel
    obtain ⟨parameter, read⟩ : ∃ parameter, Parameter.ofValue? entry = some parameter := by
      rw [← Option.isSome_iff_exists, Parameter.ofValue?_of_named named, known]
      rfl
    have reads := Parameter.reads_of_ofValue? read
    refine ⟨parameter, ?_, Option.some.inj (reads.place.symm.trans known), (same _).mpr ?_⟩
    · rw [op.parameters_eq]
      exact List.mem_filterMap.mpr ⟨entry, declared, by rw [dereference?, inline, Option.bind_some, read]⟩
    · rwa [← Option.some.inj (named.symm.trans reads.name)]
  · rintro ⟨parameter, member, placed, lower⟩
    rw [op.parameters_eq] at member
    obtain ⟨entry, declared, read⟩ := List.mem_filterMap.mp member
    obtain ⟨object, leads, read⟩ := Option.bind_eq_some_iff.mp read
    have reads := Parameter.reads_of_ofValue? read
    have lower := (same _).mp lower
    have names : NamesHeader doc entry := ⟨object, _, .inr leads, reads.name, lower ▸ required⟩
    rw [dereference?, plain.inPlace entry declared names] at leads
    cases leads
    obtain ⟨place, written, known⟩ := Option.bind_eq_some_iff.mp reads.place
    have small := plain.small entry declared names place written (known.trans (congrArg some placed))
    exact ⟨entry, declared, small ▸ written, _, reads.name, lower⟩

/-! ## Documents -/

theorem HasOnePost.operations (only : HasOnePost doc op) : doc.operations = [op] := by
  obtain ⟨path, key, value, item⟩ := op
  obtain rfl : item = .object [("post", value)] := only.item
  obtain rfl : key = .post := only.key
  rw [Document.operations, only.paths]
  rfl

/-- Nothing but the bodies and the headers is left to check. -/
theorem HasOnePost.check_eq (only : HasOnePost doc op) :
    check doc = checkBodies doc.schemas op.value >>= fun _ => checkHeaders op.value := by
  have path : onlyPath doc = .ok (op.path, op.item) := by rw [onlyPath, only.paths]; rfl
  have post : onlyPost op.path op.item = .ok op.value := by rw [only.item]; rfl
  have schemas : someSchemas doc = .ok doc.schemas := by
    unfold someSchemas
    split
    · exact absurd ‹_› only.schemas
    · rfl
  rw [check, only.servers, path]
  simp only [Option.isSome_none, Bool.false_eq_true, if_false, bind, Except.bind, post, schemas, only.security]

theorem mem_declaredResponses {response : Json} (found : okResponse? op = some response) :
    ("200", response) ∈ Model.Compiling.declaredResponses op := by
  obtain ⟨responses, written, found⟩ := Option.bind_eq_some_iff.mp found
  rw [Model.Compiling.declaredResponses, written]
  cases responses with
  | object fields => exact Table.mem_of_get? found
  | _ => cases found

/-- The data product validator accepts a document that the structural validator accepts exactly if its operation
is that of a data product, provided that references and headers are written plainly. -/
theorem check_iff_describes (accepted : Structure.check doc = .ok ()) (only : HasOnePost doc op)
    (plain : WrittenPlainly doc op) : check doc = .ok () ↔ Describes doc op := by
  obtain ⟨_, _, accepted⟩ := Structure.accepted_of_check accepted
  have bodies := (accepted.operations op (by simp [only.operations])).bodies
  have request {body : Json} (written : op.value.get? "requestBody" = some body) :
      checkBody doc.schemas body = .ok () ↔ RefersToComponent doc body :=
    checkBody_eq_ok_iff_refers (bodies _ (Operation.mem_bodies_request written)) (only.request written)
      (plain.request written)
  obtain ⟨response, found, inline⟩ := only.response
  have responds : checkBody doc.schemas response = .ok () ↔ RefersToComponent doc response :=
    checkBody_eq_ok_iff_refers (bodies _ (Operation.mem_bodies_response (mem_declaredResponses found))) inline
      (plain.response found)
  have headers : checkHeaders op.value = .ok () ↔ ∀ header ∈ requiredHeaders, TakesHeader doc op header := by
    rw [checkHeaders_eq_ok_iff]
    exact forall₂_congr fun header required => mem_headerNames_iff_takes only plain required
  rw [only.check_eq, bind_eq_ok_iff]
  constructor
  · rintro ⟨⟨⟩, passes, takes⟩
    obtain ⟨requests, _, same, content, passes⟩ := checkBodies_eq_ok_iff.mp passes
    cases Option.some.inj (found.symm.trans same)
    refine ⟨fun written filled => ?_, ⟨response, found, responds.mp passes⟩, headers.mp takes⟩
    exact (request written).mp (requests _ written filled)
  · rintro ⟨requests, ⟨_, same, refers⟩, takes⟩
    cases Option.some.inj (found.symm.trans same)
    have filled : hasContent response = true := by
      obtain ⟨_, _, _, content, _⟩ := refers
      exact hasContent_of_jsonSchemaOf? content
    have passes : checkBodies doc.schemas op.value = .ok () :=
      checkBodies_eq_ok_iff.mpr ⟨fun body written filled => (request written).mpr (requests written filled), response,
        found, filled, responds.mpr refers⟩
    exact ⟨(), passes, headers.mpr takes⟩

/-- A body with JSON content that is described by a component. -/
def bodyOf (component : String) : Json :=
  .object [("content", .object [("application/json", .object [("schema",
    .object [("$ref", .string (Schema.componentPrefix ++ component))])])])]

theorem unescaped_bodyOf {component : String} (plain : Pointer.unescape component = component) :
    Unescaped (bodyOf component) := by
  intro schema reference name content written start
  cases content
  cases written
  rw [Text.afterStart?_append] at start
  cases start
  exact plain

/-- The operation of a data product that takes these parameters. -/
def companyOperation (parameters : List Json) : Operation :=
  let post := .object
    [("parameters", .array parameters), ("requestBody", bodyOf "Request"),
     ("responses", .object [("200", bodyOf "Response")])]
  { path := "/Company/BasicInfo", key := .post, value := post, item := .object [("post", post)] }

def companyDocument (parameters : List Json) : Document where
  path := "company.json"
  relativePath := "company.json"
  fields :=
    [("openapi", .string "3.0.2"),
     ("paths", .object [("/Company/BasicInfo", (companyOperation parameters).item)]),
     ("components", .object
        [("schemas", .object
           [("Request", .object [("title", .string "Request"), ("type", .string "object")]),
            ("Response", .object [("title", .string "Response"), ("type", .string "object")])]),
         ("parameters", .object
           [("Authorization", .object [("name", .string "Authorization"), ("in", .string "header")])])])]

theorem hasOnePost_company (parameters : List Json) :
    HasOnePost (companyDocument parameters) (companyOperation parameters) where
  servers := rfl
  paths := rfl
  item := rfl
  key := rfl
  schemas := nofun
  security := rfl
  request written := by
    cases written
    rfl
  response := ⟨_, rfl, rfl⟩

def providerHeader : Json := .object [("name", .string "X-Authorization-Provider"), ("in", .string "header")]

/-- The two headers, as a data product takes them. -/
def plainHeaders : List Json :=
  [.object [("name", .string "Authorization"), ("in", .string "header")], providerHeader]

/-- The same, one of them by a reference. -/
def sharedHeaders : List Json := [.object [("$ref", .string "#/components/parameters/Authorization")], providerHeader]

theorem check_iff_describes_company : Structure.check (companyDocument plainHeaders) = .ok () ∧
    HasOnePost (companyDocument plainHeaders) (companyOperation plainHeaders) ∧
    WrittenPlainly (companyDocument plainHeaders) (companyOperation plainHeaders) ∧
    check (companyDocument plainHeaders) = .ok () ∧
    Describes (companyDocument plainHeaders) (companyOperation plainHeaders) := by
  have passes : (Structure.check (companyDocument plainHeaders)).isOk = true := by decide +kernel
  have succeeds : (check (companyDocument plainHeaders)).isOk = true := by decide +kernel
  obtain ⟨⟨⟩, accepted⟩ := exists_eq_ok_of_isOk passes
  obtain ⟨⟨⟩, product⟩ := exists_eq_ok_of_isOk succeeds
  have entries : (companyOperation plainHeaders).declaredParameters = plainHeaders := rfl
  have written : ∀ entry ∈ plainHeaders, entry.textAt? "$ref" = none ∧ entry.textAt? "in" = some "header" := by
    decide +kernel
  have plain : WrittenPlainly (companyDocument plainHeaders) (companyOperation plainHeaders) := by
    constructor
    · intro body found
      cases found
      exact unescaped_bodyOf (by decide +kernel)
    · intro body found
      cases found
      exact unescaped_bodyOf (by decide +kernel)
    · intro entry declared _
      exact (written entry (entries ▸ declared)).1
    · intro entry declared _ place placed _
      exact Option.some.inj (placed.symm.trans (written entry (entries ▸ declared)).2)
  exact ⟨accepted, hasOnePost_company _, plain, product,
    (check_iff_describes accepted (hasOnePost_company _) plain).mp product⟩

/-- A header that is shared by a reference is taken by the operation, and not found by the validator. -/
theorem check_misses_header : Structure.check (companyDocument sharedHeaders) = .ok () ∧
    HasOnePost (companyDocument sharedHeaders) (companyOperation sharedHeaders) ∧
    Describes (companyDocument sharedHeaders) (companyOperation sharedHeaders) ∧
    check (companyDocument sharedHeaders) ≠ .ok () := by
  have passes : (Structure.check (companyDocument sharedHeaders)).isOk = true := by decide +kernel
  obtain ⟨⟨⟩, accepted⟩ := exists_eq_ok_of_isOk passes
  have rejects : (check (companyDocument sharedHeaders)).isOk = false := by decide +kernel
  refine ⟨accepted, hasOnePost_company _, ⟨?_, ?_, ?_⟩, fun passes => ?_⟩
  · intro body written _
    cases written
    exact ⟨_, _, "Request", rfl, rfl, by decide +kernel, rfl⟩
  · exact ⟨_, rfl, _, _, "Response", rfl, rfl, by decide +kernel, rfl⟩
  · have takes : ∀ header ∈ requiredHeaders, ((companyOperation sharedHeaders).parameters
        (companyDocument sharedHeaders)).any (fun parameter => parameter.place == .header &&
          Text.sameIgnoringAsciiCase parameter.name header) = true := by
      decide +kernel
    intro header required
    obtain ⟨parameter, member, both⟩ := List.any_eq_true.mp (takes header required)
    obtain ⟨placed, same⟩ := (Bool.and_eq_true _ _).mp both
    exact ⟨parameter, member, eq_of_beq placed, same⟩
  · rw [passes] at rejects
    cases rejects

end DataProduct

end ApiAtlas
