import Mathlib.Data.List.Forall2
import KeyScript.Proofs.Editor.Indexes
import KeyScript.Proofs.Server.Replies

/-!
# The open documents of a session

At every point of a session the open documents are those of the reports so far: each stands under
its own name, has the text that was reported last and holds what follows from this text, with
nothing left from the texts before. The last diagnostics that were sent for it are those of its
text, without a cap on repetitions.

## Main definitions

- `lastText` — the text of a document after some reports
- `lastPublished` — the diagnostics that were sent last for a document
- `Locates` — a diagnostic at its line
- `Server.IsCurrent` — a server whose documents are those of the reports
- `Document.IsUpToDate` — a document as the reports and the diagnostics have it

## Main results

- `Server.IsCurrent.of_edit` — a report keeps a server current
- `session_documents` — the server of a session is current
-/

namespace KeyScript

/-! ## Reports and publications -/

namespace Edit

/-- The document that a report is about. -/
def uri : Edit → Bytes
  | opened uri _ => uri
  | changed uri _ => uri
  | closed uri => uri

/-- What a message reports, if it reports anything. -/
def ofBody? (body : Bytes) : Option Edit := (Request.ofBody? body).bind Request.edit?

end Edit

/-- The text of a document after some reports, the latest of them first, or nothing if it is not
open: the text with which it was opened, or the last text of a later change. A change without texts,
or of a document that is not open, changes nothing. -/
def lastText (uri : Bytes) : List Edit → Option Bytes
  | [] => none
  | .opened u text :: earlier => if u = uri then some text else lastText uri earlier
  | .changed u texts :: earlier =>
    let old := lastText uri earlier
    if u = uri then old.map fun text => texts.getLast?.getD text else old
  | .closed u :: earlier => if u = uri then none else lastText uri earlier

/-- A change of an open document leaves the last of its texts. -/
theorem lastText_changed {uri old text : Bytes} {texts : List Bytes} {edits : List Edit}
    (hold : lastText uri edits = some old) (hlast : texts.getLast? = some text) (v : Bytes) :
    lastText v (.changed uri texts :: edits) = if uri = v then some text else lastText v edits := by
  rw [lastText]
  split
  · next hv =>
    subst hv
    rw [hold, hlast]
    rfl
  · rfl

/-- A change without texts, or of a document that is not open, has no effect. -/
theorem lastText_changed_of_idle {uri : Bytes} {texts : List Bytes} {edits : List Edit}
    (h : lastText uri edits = none ∨ texts.getLast? = none) (v : Bytes) :
    lastText v (.changed uri texts :: edits) = lastText v edits := by
  rw [lastText]
  split
  · next hv =>
    subst hv
    rcases h with h | h
    · rw [h]
      rfl
    · rw [h]
      exact Option.map_id'
  · rfl

/-- The reports of the messages of a session. -/
def editsOf (bodies : List Bytes) : List Edit := (beforeExit bodies).filterMap Edit.ofBody?

/-- The diagnostics that a message brings for a document. -/
def Outgoing.publishedFor (uri : Bytes) : Outgoing → Option (List LocatedDiagnostic)
  | diagnostics u list => if u = uri then some list else none
  | _ => none

/-- The diagnostics that were sent last for a document. -/
def lastPublished (uri : Bytes) (sent : List Outgoing) : Option (List LocatedDiagnostic) :=
  sent.reverse.findSome? (Outgoing.publishedFor uri)

theorem lastPublished_append_singleton (uri : Bytes) (sent : List Outgoing) (m : Outgoing) :
    lastPublished uri (sent ++ [m]) = (m.publishedFor uri).or (lastPublished uri sent) := by
  rw [lastPublished, List.reverse_append, List.reverse_singleton, List.singleton_append,
    List.findSome?_cons]
  cases m.publishedFor uri <;> rfl

/-- A diagnostic of a text at its line: it has the message of the diagnostic and spans the line from
column zero to its length. -/
structure Locates (text : Bytes) (e : Diagnostic) (d : LocatedDiagnostic) : Prop where
  message_eq : d.message = e.message
  span_eq : ∃ (i : Nat) (line : Bytes), e.line = i + 1 ∧ (splitLines text)[i]? = some line ∧
    d.span = ⟨⟨i, 0⟩, ⟨i, line.units⟩⟩

/-- The diagnostics of a document are those of its text, without a cap on repetitions. -/
theorem forall₂_locates (uri text : Bytes) :
    List.Forall₂ (Locates text) (parse text).errors (Document.ofText uri text).diagnostics := by
  have herrors : (Document.ofText uri text).result.errors = (parse text).errors :=
    errors_parseMaxRepeat text Document.maxRepeat
  have haccounts : (parse text).Accounts 1 (splitLines text) := accounts_parseMaxRepeat text 0
  rw [Document.diagnostics, herrors, List.forall₂_map_right_iff, List.forall₂_same]
  intro e he
  refine ⟨rfl, ?_⟩
  obtain ⟨hfirst, hlast⟩ := haccounts.error_line e he
  obtain ⟨i, hi⟩ : ∃ i : Nat, e.line = i + 1 := ⟨(e.line - 1).toNat, by omega⟩
  have hbound : i < (splitLines text).length := by omega
  have hline : (splitLines text)[i]? = some (splitLines text)[i] := List.getElem?_eq_getElem hbound
  have hindex : e.line - 1 = i := by omega
  refine ⟨i, _, hi, hline, ?_⟩
  rw [hindex, Document.lineSpan, Document.line?, if_pos (Int.natCast_nonneg i), Int.toNat_natCast]
  simp only [Document.ofText, Document.setText, hline]
  rfl

namespace Server

/-- A server whose documents are those of some reports, the latest of them first, when `sent` has
been sent. -/
structure IsCurrent (s : Server) (edits : List Edit) (sent : List Outgoing) : Prop where
  document_eq : ∀ uri, s.document? uri = (lastText uri edits).map (Document.ofText uri)
  published : ∀ uri text, lastText uri edits = some text →
    ∃ list, lastPublished uri sent = some list ∧
      List.Forall₂ (Locates text) (parse text).errors list

variable {s t : Server} {e : Edit} {edits later : List Edit} {sent more : List Outgoing}
  {m : Option Outgoing} {body : Bytes} {turn : Turn}

/-- What does not touch the documents keeps a server current. -/
theorem IsCurrent.of_same (h : IsCurrent s edits sent) (hdocuments : t.documents = s.documents)
    (htext : ∀ uri, lastText uri later = lastText uri edits)
    (hsent : ∀ uri, lastPublished uri more = lastPublished uri sent) : IsCurrent t later more where
  document_eq uri := by
    rw [htext, ← h.document_eq, document?, document?, hdocuments]
  published uri text hlast := by
    rw [hsent]
    exact h.published uri text ((htext uri).symm.trans hlast)

/-- A document that is put under its name keeps a server current if its text is the one reported
last. -/
theorem IsCurrent.of_publish (h : IsCurrent s edits sent) {uri text : Bytes}
    (htext : ∀ v, lastText v later = if uri = v then some text else lastText v edits) :
    IsCurrent { s with documents := s.documents.set uri (.ofText uri text) } later
      (sent ++ [.diagnostics uri (Document.ofText uri text).diagnostics]) where
  document_eq v := by
    rw [document?, Dictionary.get?_set, htext]
    by_cases hv : uri = v
    · rw [if_pos hv, if_pos hv, hv]
      rfl
    · rw [if_neg hv, if_neg hv]
      exact h.document_eq v
  published v last hlast := by
    rw [lastPublished_append_singleton, Outgoing.publishedFor]
    rw [htext] at hlast
    by_cases hv : uri = v
    · rw [if_pos hv] at hlast ⊢
      obtain rfl := Option.some.inj hlast
      exact ⟨_, rfl, forall₂_locates uri text⟩
    · rw [if_neg hv] at hlast ⊢
      exact h.published v last hlast

/-- A report keeps a server current. -/
theorem IsCurrent.of_edit (h : IsCurrent s edits sent) (hedit : s.edit e = .next t m) :
    IsCurrent t (e :: edits) (sent ++ m.toList) := by
  cases e with
  | opened uri text =>
    obtain ⟨rfl, rfl⟩ := Turn.next.inj hedit
    exact h.of_publish fun v => rfl
  | changed uri texts =>
    simp only [edit] at hedit
    split at hedit
    · next d text hd hlast =>
      obtain ⟨rfl, rfl⟩ := Turn.next.inj hedit
      rw [h.document_eq, Option.map_eq_some_iff] at hd
      obtain ⟨old, hold, rfl⟩ := hd
      -- The edited document is a fresh one, so what it was before does not matter.
      rw [Document.setText_eq_ofText]
      exact h.of_publish (lastText_changed hold hlast)
    · next hidle =>
      obtain ⟨rfl, rfl⟩ := Turn.next.inj hedit
      refine h.of_same rfl (lastText_changed_of_idle ?_) fun v => by
        rw [Option.toList_none, List.append_nil]
      cases hold : lastText uri edits with
      | none => exact .inl rfl
      | some old =>
        have hd : s.document? uri = some (.ofText uri old) := by
          rw [h.document_eq, hold]
          rfl
        exact .inr (Option.eq_none_iff_forall_ne_some.mpr fun text hlast => hidle _ _ hd hlast)
  | closed uri =>
    obtain ⟨rfl, rfl⟩ := Turn.next.inj hedit
    rw [Option.toList_none, List.append_nil]
    refine ⟨fun v => ?_, fun v text hlast => ?_⟩
    · rw [document?, Dictionary.get?_erase, lastText]
      split
      · rfl
      · exact h.document_eq v
    · rw [lastText] at hlast
      split at hlast
      · contradiction
      · exact h.published v text hlast

/-- An answer brings no diagnostics. -/
theorem publishedFor_of_isResponse {id : Json} {m : Outgoing}
    (h : (m.json Fault.message).IsResponse id) (uri : Bytes) : m.publishedFor uri = none := by
  cases m with
  | result => rfl
  | failure => rfl
  | diagnostics u list =>
    have hid := h.id_eq.symm.trans (Outgoing.isPublication_diagnostics u list).no_id
    cases hid

theorem Edit.ofBody?_eq_none {r : Request} (h : Request.ofBody? body = some r)
    (hmethod : r.method ∉ reports) : Edit.ofBody? body = none := by
  rw [Edit.ofBody?, h, Option.bind_some, Request.edit?_eq_none hmethod]

/-- A report has its effect, and a message without a report leaves the documents alone and brings no
diagnostics. -/
theorem Effect.edit_or_same (heffect : Effect s body turn) (h : turn = .next t m) :
    (∃ e, Edit.ofBody? body = some e ∧ s.edit e = .next t m) ∨
      Edit.ofBody? body = none ∧ t.documents = s.documents ∧
        ∀ uri, m.bind (Outgoing.publishedFor uri) = none := by
  cases heffect with
  | malformed hbody =>
    obtain ⟨rfl, rfl⟩ := Turn.next.inj h
    refine .inr ⟨?_, rfl, fun uri => rfl⟩
    rw [Edit.ofBody?, hbody]
    rfl
  | start hbody hmethod =>
    have hnone := Edit.ofBody?_eq_none hbody (by rw [hmethod]; decide)
    rcases start_cases s _ hmethod with ⟨_, hstart⟩ | ⟨_, hstart⟩
    · obtain ⟨rfl, rfl⟩ := Turn.next.inj (hstart.symm.trans h)
      exact .inr ⟨hnone, rfl, fun uri => rfl⟩
    · obtain ⟨rfl, rfl⟩ := Turn.next.inj (hstart.symm.trans h)
      exact .inr ⟨hnone, rfl, fun uri => rfl⟩
  | shutDown hbody hmethod =>
    obtain ⟨rfl, rfl⟩ := Turn.next.inj h
    exact .inr ⟨Edit.ofBody?_eq_none hbody (by rw [hmethod]; decide), rfl, fun uri => rfl⟩
  | exit => cases h
  | edit hbody he => exact .inl ⟨_, by rw [Edit.ofBody?, hbody]; exact he, h⟩
  | answer hbody hmethod hid hturn =>
    obtain ⟨m, hm, hresponse⟩ := hturn
    obtain ⟨rfl, rfl⟩ := Turn.next.inj (hm.symm.trans h)
    refine .inr ⟨Edit.ofBody?_eq_none hbody fun hreport => hmethod ?_, rfl,
      publishedFor_of_isResponse hresponse⟩
    simp only [notices, List.mem_append, List.mem_cons, hreport, or_true]
  | silent hbody hmethod howes he =>
    obtain ⟨rfl, rfl⟩ := Turn.next.inj h
    refine .inr ⟨?_, rfl, fun uri => rfl⟩
    rw [Edit.ofBody?, hbody]
    exact he

/-- A message keeps a server current. -/
theorem IsCurrent.of_receive (h : IsCurrent s edits sent) (hturn : s.receive body = .next t m) :
    IsCurrent t ((Edit.ofBody? body).toList ++ edits) (sent ++ m.toList) := by
  rcases (effect_receive s body).edit_or_same hturn with ⟨e, he, hedit⟩ | ⟨he, hdocuments, hm⟩
  · rw [he]
    exact h.of_edit hedit
  · refine h.of_same hdocuments (fun uri => by rw [he]; rfl) fun uri => ?_
    cases m with
    | none => rw [Option.toList_none, List.append_nil]
    | some m =>
      have hother : m.publishedFor uri = none := hm uri
      rw [Option.toList_some, lastPublished_append_singleton, hother]
      rfl

/-- A session keeps a server current. -/
theorem IsCurrent.run (h : IsCurrent s edits sent) (bodies : List Bytes) :
    IsCurrent (s.run bodies).1 ((editsOf bodies).reverse ++ edits)
      (sent ++ (s.run bodies).2.filterMap id) := by
  induction bodies generalizing s edits sent with
  | nil => simpa [Server.run, editsOf, beforeExit] using h
  | cons body bodies ih =>
    rw [Server.run, editsOf]
    cases hturn : s.receive body with
    | exit code =>
      rw [beforeExit_of_exit hturn]
      simpa using h
    | next t m =>
      have hlater := ih (h.of_receive hturn)
      rw [beforeExit_of_next hturn]
      cases he : Edit.ofBody? body <;> cases m <;> simpa [editsOf, he] using hlater

/-- A report about one document leaves the others alone. -/
theorem document?_of_edit (h : s.edit e = .next t m) {uri : Bytes} (huri : e.uri ≠ uri) :
    t.document? uri = s.document? uri := by
  cases e with
  | opened u text =>
    obtain ⟨rfl, -⟩ := Turn.next.inj h
    exact (Dictionary.get?_set _ _ uri _).trans (if_neg huri)
  | changed u texts =>
    simp only [edit] at h
    split at h
    · obtain ⟨rfl, -⟩ := Turn.next.inj h
      exact (Dictionary.get?_set _ _ uri _).trans (if_neg huri)
    · obtain ⟨rfl, -⟩ := Turn.next.inj h
      rfl
  | closed u =>
    obtain ⟨rfl, -⟩ := Turn.next.inj h
    exact (Dictionary.get?_erase _ _ uri).trans (if_neg huri)

/-- A message that reports nothing of a document leaves it alone. -/
theorem document?_of_receive (h : s.receive body = .next t m) {uri : Bytes}
    (huri : ∀ e, Edit.ofBody? body = some e → e.uri ≠ uri) :
    t.document? uri = s.document? uri := by
  rcases (effect_receive s body).edit_or_same h with ⟨e, he, hedit⟩ | ⟨-, hdocuments, -⟩
  · exact document?_of_edit hedit (huri e he)
  · rw [document?, document?, hdocuments]

/-- A session goes on after a report. -/
theorem exists_receive_eq_next (s : Server) (h : Edit.ofBody? body = some e) :
    ∃ t m, s.receive body = .next t m := by
  obtain ⟨r, hr, he⟩ := Option.bind_eq_some_iff.mp h
  cases hturn : s.receive body with
  | next t m => exact ⟨t, m, rfl⟩
  | exit code =>
    have hexit := (exists_receive_eq_exit_iff s body).mp ⟨code, hturn⟩
    rw [isExit, hr, Option.any_some, beq_iff_eq] at hexit
    have hreport := Request.mem_reports_of_edit?_eq_some he
    rw [hexit] at hreport
    exact absurd hreport (by decide)

theorem isCurrent_empty : IsCurrent {} [] [] := ⟨fun _ => rfl, fun _ _ hlast => by cases hlast⟩

end Server

/-- A document that stands under a name after some reports, the latest of them first, when `sent`
has been sent: the name is its own, its text is the one reported last, it holds what follows from
this text, as a fresh document does, and the diagnostics sent last are those of this text. -/
structure Document.IsUpToDate (d : Document) (uri : Bytes) (edits : List Edit)
    (sent : List Outgoing) : Prop where
  uri_eq : d.uri = uri
  lastText_eq : lastText uri edits = some d.text
  holds : d.Holds d.text
  eq_ofText : d = .ofText uri d.text
  published : ∃ list, lastPublished uri sent = some list ∧
    List.Forall₂ (Locates d.text) (parse d.text).errors list

/-- The documents of a current server are up to date. -/
theorem Server.IsCurrent.isUpToDate {s : Server} {edits : List Edit} {sent : List Outgoing}
    (h : s.IsCurrent edits sent) {uri : Bytes} {d : Document}
    (hd : (uri, d) ∈ s.documents.entries) : d.IsUpToDate uri edits sent := by
  have hopen : s.document? uri = some d := (s.documents.mem_entries_iff uri d).mp hd
  rw [h.document_eq, Option.map_eq_some_iff] at hopen
  obtain ⟨text, hlast, rfl⟩ := hopen
  exact ⟨rfl, hlast, Document.holds_setText _ _, rfl, h.published uri text hlast⟩

/-- After the messages of a session the open documents are those of the reports, and each of them is
up to date: it stands under its own name, holds what follows from the text reported last, and the
diagnostics sent last for it are those of its text, without a cap on repetitions. Nothing of an
earlier text outlives an edit. A message that reports nothing of a document leaves it alone. Nor
does it matter how the bytes of the messages are cut into chunks. -/
theorem session_documents :
    (∀ bodies, Server.IsCurrent (({} : Server).run bodies).1 (editsOf bodies).reverse
        ((({} : Server).run bodies).2.filterMap id) ∧
      ∀ uri d, (uri, d) ∈ (({} : Server).run bodies).1.documents.entries →
        d.IsUpToDate uri (editsOf bodies).reverse ((({} : Server).run bodies).2.filterMap id)) ∧
      (∀ (d : Document) (text : Bytes),
        (d.setText text).Holds text ∧ d.setText text = .ofText d.uri text) ∧
      (∀ (s t : Server) body m uri, s.receive body = .next t m →
        (∀ e, Edit.ofBody? body = some e → e.uri ≠ uri) → t.document? uri = s.document? uri) ∧
      ∀ chunks,
        (({} : Connection).feedAll chunks).1.server =
            (({} : Server).run (received chunks.flatten)).1 ∧
          (({} : Connection).feedAll chunks).2 =
            (({} : Server).run (received chunks.flatten)).2.filterMap id := by
  refine ⟨fun bodies => ?_, fun d text => ⟨d.holds_setText text, d.setText_eq_ofText text⟩,
    fun s t body m uri h => Server.document?_of_receive h, Connection.feedAll_eq_run {}⟩
  have hcurrent : Server.IsCurrent _ _ _ := Server.isCurrent_empty.run bodies
  rw [List.append_nil, List.nil_append] at hcurrent
  exact ⟨hcurrent, fun uri d hd => hcurrent.isUpToDate hd⟩

/-- A message that opens a document. -/
def openBody (uri text : Bytes) : Bytes :=
  ("\x7b\"method\":\"textDocument/didOpen\",\"params\":\x7b\"textDocument\":\x7b" : Bytes) ++
    "\"uri\":\"" ++ uri ++ "\",\"text\":\"" ++ text ++ "\"\x7d\x7d\x7d"

/-- A message that changes a document twice. -/
def changeBody (uri first second : Bytes) : Bytes :=
  ("\x7b\"method\":\"textDocument/didChange\",\"params\":\x7b\"textDocument\":\x7b" : Bytes) ++
    "\"uri\":\"" ++ uri ++ "\"\x7d,\"contentChanges\":[\x7b\"text\":\"" ++ first ++
    "\"\x7d,\x7b\"text\":\"" ++ second ++ "\"\x7d]\x7d\x7d"

/-- One of two documents is changed, from a text that is rejected to one that is not. It has the
last of the new texts and no diagnostics any more, and the other document stays as it is. -/
theorem session_documents_two :
    let s := (({} : Server).run [openBody "a" "NO", openBody "b" "TAB"]).1
    ∃ t m, s.receive (changeBody "a" "UP" "ENTER") = .next t m ∧
      t.document? "b" = some (.ofText "b" "TAB") ∧
      s.document? "a" = some (.ofText "a" "NO") ∧
      (Document.ofText "a" "NO").isRejected 0 = true ∧
      (({} : Server).run
        [openBody "a" "NO", openBody "b" "TAB", changeBody "a" "UP" "ENTER"]).1.document? "a" =
          some (.ofText "a" "ENTER") ∧
      (Document.ofText "a" "ENTER").isRejected 0 = false := by
  intro s
  have htwo : editsOf [openBody "a" "NO", openBody "b" "TAB"] =
      [.opened "a" "NO", .opened "b" "TAB"] := by decide +kernel
  have hthree : editsOf [openBody "a" "NO", openBody "b" "TAB", changeBody "a" "UP" "ENTER"] =
      [.opened "a" "NO", .opened "b" "TAB", .changed "a" ["UP", "ENTER"]] := by decide +kernel
  have hchange : Edit.ofBody? (changeBody "a" "UP" "ENTER") =
      some (.changed "a" ["UP", "ENTER"]) := by decide +kernel
  obtain ⟨hcurrent, -, hframe, -⟩ := session_documents
  have hs := (hcurrent [openBody "a" "NO", openBody "b" "TAB"]).1.document_eq
  rw [htwo] at hs
  obtain ⟨t, m, hturn⟩ := s.exists_receive_eq_next hchange
  refine ⟨t, m, hturn, (hframe _ _ _ _ _ hturn fun e he => ?_).trans (hs "b"), hs "a", ?_, ?_, ?_⟩
  · rw [hchange] at he
    obtain rfl := Option.some.inj he
    decide
  · rw [Document.ofText, Document.setText, parseMaxRepeat_eq_result]
    decide +kernel
  · rw [(hcurrent _).1.document_eq, hthree]
    rfl
  · rw [Document.ofText, Document.setText, parseMaxRepeat_eq_result]
    decide +kernel

end KeyScript
