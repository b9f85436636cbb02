import Mathlib.Tactic.Common
import KeyScript.Server.Session

/-!
# What a message does

A message that cannot be read is refused. Any other message starts the session, announces its end,
ends it, edits a document, or changes nothing: then it is answered if an answer is owed and is
passed over in silence otherwise. What holds of every message is derived from this.

## Main definitions

- `Json.IsResponse` — the form of an answer
- `Request.owes` — the identifier under which an answer is owed, if one is owed
- `Edit`, `Request.edit?`, `Server.edit` — what happens to documents
- `Server.Effect` — all that a message can do

## Main results

- `Server.effect_receive` — a message does nothing else
-/

namespace KeyScript

/-- The values of the members with a given name. -/
def Json.valuesOf (name : Bytes) : Json → List Json
  | .object members => (members.filter fun m => m.1 == escape name).map Prod.snd
  | _ => []

/-- An answer under an identifier: it has a result or an error, but not both, and calls nothing. -/
structure Json.IsResponse (j id : Json) : Prop where
  id_eq : j.valuesOf "id" = [id]
  result_or_error : (j.valuesOf "result").length + (j.valuesOf "error").length = 1
  no_method : j.valuesOf "method" = []

theorem Outgoing.isResponse_result (id value : Json) :
    ((Outgoing.result id value).json Fault.message).IsResponse id := ⟨rfl, rfl, rfl⟩

theorem Outgoing.isResponse_failure (id : Json) (fault : Fault) :
    ((Outgoing.failure id fault).json Fault.message).IsResponse id := ⟨rfl, rfl, rfl⟩

/-- The methods that are answered with or without an identifier. -/
def turningPoints : List Bytes := ["initialize", "shutdown"]

/-- The methods that are answered if they come with an identifier. -/
def questions : List Bytes :=
  ["textDocument/hover", "textDocument/semanticTokens/full", "textDocument/completion",
    "textDocument/codeAction", "workspace/executeCommand"]

/-- The methods that report what happens to a document. -/
def reports : List Bytes :=
  ["textDocument/didOpen", "textDocument/didChange", "textDocument/didClose"]

/-- The methods that are never answered. -/
def notices : List Bytes :=
  "initialized" :: "exit" :: "$/cancelRequest" :: "workspace/didChangeConfiguration" :: reports

/-- The methods that the server knows. -/
def knownMethods : List Bytes := turningPoints ++ questions ++ notices

/-- What an editor reports of a document. -/
inductive Edit where
  | opened (uri text : Bytes)
  /-- The whole text after each change. -/
  | changed (uri : Bytes) (texts : List Bytes)
  | closed (uri : Bytes)
deriving DecidableEq, Repr, Inhabited

namespace Request

/-- The identifier under which an answer is owed, if one is owed. -/
def owes (r : Request) : Option Json :=
  if turningPoints.contains r.method then some (r.id.getD .null)
  else if questions.contains r.method || !knownMethods.contains r.method then r.id
  else none

/-- What a message reports of a document, if it does and can be read. -/
def edit? (r : Request) : Option Edit :=
  if r.method = "textDocument/didOpen" then
    (r.read? OpenParams.fields {}).map fun p => .opened p.uri p.text
  else if r.method = "textDocument/didChange" then
    (r.read? ChangeParams.fields {}).map fun p => .changed p.uri p.texts.items
  else if r.method = "textDocument/didClose" then
    (r.read? CloseParams.fields {}).map fun p => .closed p.uri
  else none

variable {r : Request}

theorem owes_of_mem_turningPoints (h : r.method ∈ turningPoints) :
    r.owes = some (r.id.getD .null) := if_pos (List.contains_iff_mem.mpr h)

/-- A question, or a method that the server does not know, is owed an answer if it has an
identifier. -/
theorem owes_of_notMem (h : r.method ∉ turningPoints ++ notices) : r.owes = r.id := by
  obtain ⟨hturn, hnotice⟩ := not_or.mp (mt List.mem_append.mpr h)
  have hother : r.method ∈ questions ∨ r.method ∉ knownMethods := by
    rw [knownMethods, List.mem_append, List.mem_append]
    tauto
  rw [owes, if_neg (mt List.contains_iff_mem.mp hturn), if_pos (by simpa using hother)]

theorem owes_of_mem_notices (h : r.method ∈ notices) : r.owes = none := by
  have hdisjoint : notices.all (fun m => decide (m ∉ turningPoints ∧ m ∉ questions)) = true := by
    decide
  obtain ⟨hturn, hquestion⟩ := of_decide_eq_true (List.all_eq_true.mp hdisjoint _ h)
  have hknown : r.method ∈ knownMethods := List.mem_append_right _ h
  rw [owes, if_neg (mt List.contains_iff_mem.mp hturn), if_neg (by simp [hquestion, hknown])]

/-- A report comes by the method for its kind. -/
theorem edit?_eq_some {e : Edit} (h : r.edit? = some e) :
    (∃ uri text, e = .opened uri text ∧ r.method = "textDocument/didOpen") ∨
      (∃ uri texts, e = .changed uri texts ∧ r.method = "textDocument/didChange") ∨
      ∃ uri, e = .closed uri ∧ r.method = "textDocument/didClose" := by
  unfold edit? at h
  split at h
  · obtain ⟨p, -, rfl⟩ := Option.map_eq_some_iff.mp h
    exact .inl ⟨_, _, rfl, ‹_›⟩
  split at h
  · obtain ⟨p, -, rfl⟩ := Option.map_eq_some_iff.mp h
    exact .inr (.inl ⟨_, _, rfl, ‹_›⟩)
  split at h
  · obtain ⟨p, -, rfl⟩ := Option.map_eq_some_iff.mp h
    exact .inr (.inr ⟨_, rfl, ‹_›⟩)
  · contradiction

theorem mem_reports_of_edit?_eq_some {e : Edit} (h : r.edit? = some e) : r.method ∈ reports := by
  rcases edit?_eq_some h with ⟨-, -, -, hmethod⟩ | ⟨-, -, -, hmethod⟩ | ⟨-, -, hmethod⟩ <;>
    rw [hmethod] <;> decide

theorem mem_notices_of_edit?_eq_some {e : Edit} (h : r.edit? = some e) : r.method ∈ notices := by
  simp only [notices, List.mem_cons, mem_reports_of_edit?_eq_some h, or_true]

theorem edit?_eq_none (h : r.method ∉ reports) : r.edit? = none :=
  Option.eq_none_iff_forall_ne_some.mpr fun _ he => h (mem_reports_of_edit?_eq_some he)

end Request

namespace Server

/-- The turn for a report. -/
def edit (s : Server) : Edit → Turn
  | .opened uri text => s.publish uri (.ofText uri text)
  | .changed uri texts =>
    match s.document? uri, texts.getLast? with
    | some d, some text => s.publish uri (d.setText text)
    | _, _ => s.silent
  | .closed uri => { s with documents := s.documents.erase uri }.silent

/-- For a report the diagnostics of a document are sent, but not if a document is closed, or nothing
is sent. -/
theorem edit_cases (s : Server) (e : Edit) :
    (∃ uri d, s.edit e = s.publish uri d ∧ ∀ closed, e ≠ .closed closed) ∨
      ∃ documents, s.edit e = { s with documents }.silent := by
  cases e with
  | opened uri text => exact .inl ⟨_, _, rfl, by simp⟩
  | changed uri texts =>
    simp only [edit]
    split
    · exact .inl ⟨_, _, rfl, by simp⟩
    · exact .inr ⟨_, rfl⟩
  | closed uri => exact .inr ⟨_, rfl⟩

/-- The turns that change nothing and send an answer. -/
def Answers (s : Server) (id : Json) (turn : Turn) : Prop :=
  ∃ m : Outgoing, turn = .next s (some m) ∧ (m.json Fault.message).IsResponse id

/-- All that a message can do. -/
inductive Effect (s : Server) (body : Bytes) : Turn → Prop where
  | malformed (h : Request.ofBody? body = none) : Effect s body (s.refuse .null .malformed)
  | start {r : Request} (h : Request.ofBody? body = some r) (hmethod : r.method = "initialize") :
      Effect s body (s.start (r.id.getD .null) r)
  | shutDown {r : Request} (h : Request.ofBody? body = some r) (hmethod : r.method = "shutdown") :
      Effect s body ({ s with isShutDown := true }.answer (r.id.getD .null) .null)
  | exit {r : Request} (h : Request.ofBody? body = some r) (hmethod : r.method = "exit")
      (code : Nat) : Effect s body (.exit code)
  | edit {r : Request} {e : Edit} (h : Request.ofBody? body = some r) (he : r.edit? = some e) :
      Effect s body (s.edit e)
  | answer {r : Request} {id : Json} {turn : Turn} (h : Request.ofBody? body = some r)
      (hmethod : r.method ∉ turningPoints ++ notices) (hid : r.id = some id)
      (hturn : s.Answers id turn) : Effect s body turn
  | silent {r : Request} (h : Request.ofBody? body = some r) (hmethod : r.method ≠ "exit")
      (howes : r.owes = none) (he : r.edit? = none) : Effect s body s.silent

section Handlers

variable (s : Server) (id : Json) (r : Request)

theorem answers_answer (value : Json) : s.Answers id (s.answer id value) :=
  ⟨_, rfl, Outgoing.isResponse_result id value⟩

theorem answers_refuse (fault : Fault) : s.Answers id (s.refuse id fault) :=
  ⟨_, rfl, Outgoing.isResponse_failure id fault⟩

theorem answers_hover : s.Answers id (s.hover id r) := by
  unfold hover
  split
  · exact answers_refuse ..
  split
  · exact answers_answer ..
  split
  · exact answers_answer ..
  · exact answers_answer ..

theorem answers_highlight : s.Answers id (s.highlight id r) := by
  unfold highlight
  split
  · exact answers_refuse ..
  · exact answers_answer ..

theorem answers_complete : s.Answers id (s.complete id r) := by
  unfold complete
  split
  · exact answers_refuse ..
  · exact answers_answer ..

theorem answers_fixes : s.Answers id (s.fixes id r) := by
  unfold fixes
  split
  · exact answers_refuse ..
  · exact answers_answer ..

theorem answers_runCommand : s.Answers id (s.runCommand id r) := by
  unfold runCommand
  split
  · exact answers_refuse ..
  split
  · exact answers_refuse ..
  split
  · split
    · exact answers_refuse ..
    · exact answers_answer ..
  · exact answers_refuse ..

end Handlers

section Effects

variable {s : Server} {body method : Bytes} {r : Request}

/-- A notice that does not end the session makes its report, if it has one. -/
theorem effect_report (h : Request.ofBody? body = some r) (hmethod : r.method = method)
    (hnotice : method ∈ notices) (hexit : method ≠ "exit") :
    Effect s body ((r.edit?.map s.edit).getD s.silent) := by
  subst hmethod
  cases he : r.edit? with
  | none => exact .silent h hexit (Request.owes_of_mem_notices hnotice) he
  | some e => exact .edit h he

/-- A message that is neither a turning point nor a notice is answered if it has an identifier. -/
theorem effect_ifAsked (h : Request.ofBody? body = some r) (hmethod : r.method = method)
    (hother : method ∉ turningPoints ++ notices) {turn : Json → Turn}
    (hturn : ∀ id, s.Answers id (turn id)) : Effect s body (s.ifAsked r turn) := by
  subst hmethod
  have hnotice : r.method ∉ notices := mt (List.mem_append_right _) hother
  unfold ifAsked
  cases hid : r.id with
  | some id => exact .answer h hother hid (hturn id)
  | none =>
    refine .silent h (fun hexit => hnotice ?_) ((Request.owes_of_notMem hother).trans hid) ?_
    · rw [hexit]
      decide
    · refine Request.edit?_eq_none fun hreport => hnotice ?_
      simp only [notices, List.mem_cons, hreport, or_true]

theorem openDocument_eq (hmethod : r.method = "textDocument/didOpen") :
    s.openDocument r = (r.edit?.map s.edit).getD s.silent := by
  rw [openDocument, Request.edit?, if_pos hmethod]
  cases r.read? OpenParams.fields {} <;> rfl

theorem changeDocument_eq (hmethod : r.method = "textDocument/didChange") :
    s.changeDocument r = (r.edit?.map s.edit).getD s.silent := by
  rw [changeDocument, Request.edit?, hmethod, if_neg (by decide), if_pos rfl]
  cases r.read? ChangeParams.fields {} <;> rfl

theorem closeDocument_eq (hmethod : r.method = "textDocument/didClose") :
    s.closeDocument r = (r.edit?.map s.edit).getD s.silent := by
  rw [closeDocument, Request.edit?, hmethod, if_neg (by decide), if_neg (by decide), if_pos rfl]
  cases r.read? CloseParams.fields {} <;> rfl

/-- A notice that is no report and does not end the session is passed over. -/
theorem effect_silent (h : Request.ofBody? body = some r) (hmethod : r.method = method)
    (hnotice : method ∈ notices) (hexit : method ≠ "exit") (hreport : method ∉ reports) :
    Effect s body s.silent := by
  subst hmethod
  exact .silent h hexit (Request.owes_of_mem_notices hnotice) (Request.edit?_eq_none hreport)

theorem effect_handle (h : Request.ofBody? body = some r) : Effect s body (s.handle r) := by
  -- One case for each method, in the order in which the server tells them apart. The names that a
  -- message does not have are kept only where the last case needs them.
  refine iteInduction (motive := Effect s body) (.start h) fun h₁ => ?_
  refine iteInduction (motive := Effect s body)
    (effect_silent h · (by decide) (by decide) (by decide)) fun h₂ => ?_
  refine iteInduction (motive := Effect s body) (.shutDown h) fun h₃ => ?_
  refine iteInduction (motive := Effect s body) (.exit h · _) fun h₄ => ?_
  refine iteInduction (motive := Effect s body) (fun hmethod => ?_) fun h₅ => ?_
  · rw [openDocument_eq hmethod]
    exact effect_report h hmethod (by decide) (by decide)
  refine iteInduction (motive := Effect s body) (fun hmethod => ?_) fun h₆ => ?_
  · rw [changeDocument_eq hmethod]
    exact effect_report h hmethod (by decide) (by decide)
  refine iteInduction (motive := Effect s body) (fun hmethod => ?_) fun h₇ => ?_
  · rw [closeDocument_eq hmethod]
    exact effect_report h hmethod (by decide) (by decide)
  refine iteInduction (motive := Effect s body)
    (effect_ifAsked h · (by decide) (s.answers_hover · r)) fun _ => ?_
  refine iteInduction (motive := Effect s body)
    (effect_ifAsked h · (by decide) (s.answers_highlight · r)) fun _ => ?_
  refine iteInduction (motive := Effect s body)
    (effect_ifAsked h · (by decide) (s.answers_complete · r)) fun _ => ?_
  refine iteInduction (motive := Effect s body)
    (effect_ifAsked h · (by decide) (s.answers_fixes · r)) fun _ => ?_
  refine iteInduction (motive := Effect s body)
    (effect_ifAsked h · (by decide) (s.answers_runCommand · r)) fun _ => ?_
  refine iteInduction (motive := Effect s body)
    (effect_silent h · (by decide) (by decide) (by decide)) fun h₈ => ?_
  refine iteInduction (motive := Effect s body)
    (effect_silent h · (by decide) (by decide) (by decide)) fun h₉ => ?_
  refine effect_ifAsked h rfl ?_ fun id => s.answers_refuse id _
  simp only [turningPoints, notices, reports, List.cons_append, List.nil_append, List.mem_cons,
    List.not_mem_nil, h₁, h₂, h₃, h₄, h₅, h₆, h₇, h₈, h₉, or_self, not_false_eq_true]

/-- A message does nothing else. -/
theorem effect_receive (s : Server) (body : Bytes) : Effect s body (s.receive body) := by
  unfold receive
  split
  · next h => exact .malformed h
  · next r h => exact effect_handle h

end Effects

end Server

end KeyScript
