import KeyScript.Proofs.Server.Effect
import KeyScript.Proofs.Server.Stream
import KeyScript.Proofs.Sketch.Target

/-!
# What is sent, and what a refusal leaves behind

Each message before the end of a session gets the answer it is owed, and no other. Besides answers
only diagnostics are sent, one time at most for a document that is opened or changed. A message that
is refused changes nothing, with one exception: a start with a known layout and an unknown board has
set the layout when the board is found to be unknown.

## Main definitions

- `Reply` — what may be sent for a message
- `beforeExit` — the messages before the one that ends the session
- `leftLayout?` — the layout that a refused message leaves behind

## Main results

- `session_replies` — what is sent in a session
- `Server.refused_state` — the state after a refusal
-/

namespace KeyScript

/-- Diagnostics, which call a method and answer nothing. -/
structure Json.IsPublication (j : Json) : Prop where
  method_eq : j.valuesOf "method" = [.ofText "textDocument/publishDiagnostics"]
  no_id : j.valuesOf "id" = []

theorem Outgoing.isPublication_diagnostics (uri : Bytes) (list : List LocatedDiagnostic) :
    ((Outgoing.diagnostics uri list).json Fault.message).IsPublication := ⟨rfl, rfl⟩

/-- What may be sent for a message that does not end the session. -/
inductive Reply (body : Bytes) : Option Outgoing → Prop where
  | malformed {m : Outgoing} {error : Json} (h : Request.ofBody? body = none)
      (hm : (m.json Fault.message).IsResponse .null)
      (herror : (m.json Fault.message).valuesOf "error" = [error])
      (hcode : error.valuesOf "code" = [.ofInt (-32700)]) : Reply body (some m)
  | response {r : Request} {id : Json} {m : Outgoing} (h : Request.ofBody? body = some r)
      (howes : r.owes = some id) (hm : (m.json Fault.message).IsResponse id) : Reply body (some m)
  | diagnostics {r : Request} {m : Outgoing} (h : Request.ofBody? body = some r)
      (hmethod : r.method = "textDocument/didOpen" ∨ r.method = "textDocument/didChange")
      (hm : (m.json Fault.message).IsPublication) : Reply body (some m)
  | nothing {r : Request} (h : Request.ofBody? body = some r) (howes : r.owes = none) :
      Reply body none

/-- Whether a message ends the session. -/
def isExit (body : Bytes) : Bool := (Request.ofBody? body).any fun r => r.method == ("exit" : Bytes)

/-- The messages before the one that ends the session. -/
def beforeExit (bodies : List Bytes) : List Bytes := bodies.takeWhile fun body => !isExit body

/-- The layout that is set when a start is refused: a known layout, if the board is unknown. -/
def StartParams.leftLayout? (p : StartParams) : Option Bytes :=
  let isStray := (Layout.all.map Layout.name).contains p.layout && !p.board.isEmpty &&
    !(Board.all.map Board.name).contains p.board
  if isStray then some p.layout else none

/-- The layout that a request leaves behind when it is refused. -/
def Request.leftLayout? (r : Request) : Option Bytes :=
  if r.method = "initialize" then (r.read? StartParams.fields {}).bind StartParams.leftLayout?
  else none

/-- The layout that a message leaves behind when it is refused. -/
def leftLayout? (body : Bytes) : Option Bytes := (Request.ofBody? body).bind Request.leftLayout?

namespace Server

variable {s t : Server} {body : Bytes} {r : Request} {id : Json} {turn : Turn}
  {sent : Option Outgoing} {fault : Fault}

/-- A start is refused, or it is answered and changes the target at most. -/
theorem start_cases (s : Server) (id : Json) (hmethod : r.method = "initialize") :
    (∃ fault, s.start id r = { s with target := { s.target with
        layout := r.leftLayout?.getD s.target.layout } }.refuse id fault) ∨
      ∃ target, s.start id r = { s with target }.answer id capabilities := by
  rw [Request.leftLayout?, if_pos hmethod]
  unfold start
  cases r.read? StartParams.fields {} with
  | none => exact .inl ⟨_, rfl⟩
  | some p =>
    simp only [Option.bind_some]
    by_cases hlayout : p.layout = []
    · -- No layout is named, so the one that is set is set again.
      have hleft : p.leftLayout? = none := by
        rw [StartParams.leftLayout?, hlayout]
        rfl
      simp only [hleft, if_pos hlayout]
      split
      · exact .inl ⟨_, rfl⟩
      · exact .inr ⟨_, rfl⟩
    rw [if_neg hlayout]
    rcases Layout.ofName_cases p.layout with ⟨l, hl, hname, hknown⟩ | ⟨hl, hunknown⟩
    · rw [hl]
      by_cases hboard : p.board = []
      · rw [if_pos hboard]
        exact .inr ⟨_, rfl⟩
      rw [if_neg hboard]
      rcases Board.ofName_cases p.board with ⟨b, hb, -⟩ | ⟨hb, hunknown⟩
      · rw [hb]
        exact .inr ⟨_, rfl⟩
      · have hleft : p.leftLayout? = some p.layout := by
          simp [StartParams.leftLayout?, hknown, hboard, hunknown]
        rw [hb, hleft, ← hname]
        exact .inl ⟨_, rfl⟩
    · have hleft : p.leftLayout? = none := by
        simp [StartParams.leftLayout?, hunknown]
      rw [hl, hleft]
      exact .inl ⟨_, rfl⟩

/-- A message that is refused changes nothing but the layout it leaves behind. -/
theorem Effect.eq_of_failure (heffect : Effect s body turn)
    (h : turn = .next t (some (.failure id fault))) :
    t = { s with target := { s.target with
      layout := (leftLayout? body).getD s.target.layout } } := by
  cases heffect with
  | malformed hbody =>
    obtain ⟨rfl, -⟩ := Turn.next.inj h
    rw [leftLayout?, hbody]
    rfl
  | start hbody hmethod =>
    rw [leftLayout?, hbody, Option.bind_some]
    rcases start_cases s _ hmethod with ⟨_, hstart⟩ | ⟨_, hstart⟩
    · exact (Turn.next.inj (hstart.symm.trans h)).1.symm
    · cases hstart.symm.trans h
  | shutDown => cases h
  | exit => cases h
  | @edit _ e =>
    rcases edit_cases s e with ⟨uri, d, hedit, -⟩ | ⟨documents, hedit⟩ <;> cases hedit.symm.trans h
  | answer hbody hmethod hid hturn =>
    obtain ⟨m, hm, -⟩ := hturn
    obtain ⟨rfl, -⟩ := Turn.next.inj (hm.symm.trans h)
    -- A start is a turning point, so this message is none.
    rw [leftLayout?, hbody, Option.bind_some, Request.leftLayout?, if_neg]
    · rfl
    · intro hstart
      rw [hstart] at hmethod
      exact hmethod (by decide)
  | silent => cases h

/-- A start is always answered. -/
theorem answered_of_start (hmethod : r.method = "initialize") (h : s.start id r = .next t sent) :
    ∃ m : Outgoing, sent = some m ∧ (m.json Fault.message).IsResponse id := by
  rcases start_cases s id hmethod with ⟨fault, hstart⟩ | ⟨target, hstart⟩
  · obtain ⟨-, rfl⟩ := Turn.next.inj (hstart.symm.trans h)
    exact ⟨_, rfl, Outgoing.isResponse_failure _ _⟩
  · obtain ⟨-, rfl⟩ := Turn.next.inj (hstart.symm.trans h)
    exact ⟨_, rfl, Outgoing.isResponse_result _ _⟩

/-- A message with which the session goes on gets what it may get. -/
theorem Effect.reply (heffect : Effect s body turn) (h : turn = .next t sent) :
    Reply body sent := by
  cases heffect with
  | malformed hbody =>
    obtain ⟨-, rfl⟩ := Turn.next.inj h
    exact .malformed hbody (Outgoing.isResponse_failure _ _) rfl rfl
  | start hbody hmethod =>
    obtain ⟨m, rfl, hm⟩ := answered_of_start hmethod h
    refine .response hbody (Request.owes_of_mem_turningPoints ?_) hm
    rw [hmethod]
    decide
  | shutDown hbody hmethod =>
    obtain ⟨-, rfl⟩ := Turn.next.inj h
    refine .response hbody (Request.owes_of_mem_turningPoints ?_) (Outgoing.isResponse_result _ _)
    rw [hmethod]
    decide
  | exit => cases h
  | @edit _ e hbody he =>
    rcases edit_cases s e with ⟨uri, d, hedit, hclosed⟩ | ⟨documents, hedit⟩
    · obtain ⟨-, rfl⟩ := Turn.next.inj (hedit.symm.trans h)
      refine .diagnostics hbody ?_ (Outgoing.isPublication_diagnostics _ _)
      rcases Request.edit?_eq_some he with ⟨_, _, -, hmethod⟩ | ⟨_, _, -, hmethod⟩ | ⟨uri, he, -⟩
      · exact .inl hmethod
      · exact .inr hmethod
      · exact absurd he (hclosed uri)
    · obtain ⟨-, rfl⟩ := Turn.next.inj (hedit.symm.trans h)
      exact .nothing hbody (Request.owes_of_mem_notices (Request.mem_notices_of_edit?_eq_some he))
  | answer hbody hmethod hid hturn =>
    obtain ⟨m, hm, hresponse⟩ := hturn
    obtain ⟨-, rfl⟩ := Turn.next.inj (hm.symm.trans h)
    exact .response hbody ((Request.owes_of_notMem hmethod).trans hid) hresponse
  | silent hbody hmethod howes =>
    obtain ⟨-, rfl⟩ := Turn.next.inj h
    exact .nothing hbody howes

/-- The session ends with the message that asks for the end, and with no other. -/
theorem exists_receive_eq_exit_iff (s : Server) (body : Bytes) :
    (∃ code, s.receive body = .exit code) ↔ isExit body = true := by
  rw [isExit, Option.any_eq_true]
  constructor
  · rintro ⟨code, h⟩
    have heffect := effect_receive s body
    generalize s.receive body = turn at h heffect
    cases heffect with
    | exit hbody hmethod => exact ⟨_, hbody, beq_iff_eq.mpr hmethod⟩
    | start hbody hmethod =>
      rcases start_cases s _ hmethod with ⟨_, hstart⟩ | ⟨_, hstart⟩ <;> cases hstart.symm.trans h
    | @edit _ e =>
      rcases edit_cases s e with ⟨uri, d, hedit, -⟩ | ⟨documents, hedit⟩ <;>
        cases hedit.symm.trans h
    | answer hbody hmethod hid hturn =>
      obtain ⟨m, hm, -⟩ := hturn
      cases hm.symm.trans h
    | malformed => cases h
    | shutDown => cases h
    | silent => cases h
  · rintro ⟨r, hr, hmethod⟩
    rw [beq_iff_eq] at hmethod
    rw [receive, hr]
    simp only [handle, hmethod]
    exact ⟨_, rfl⟩

theorem beforeExit_of_exit {code : Nat} (h : s.receive body = .exit code) (bodies : List Bytes) :
    beforeExit (body :: bodies) = [] := by
  have hexit := (exists_receive_eq_exit_iff s body).mp ⟨code, h⟩
  exact List.takeWhile_cons_of_neg (by simp [hexit])

theorem beforeExit_of_next (h : s.receive body = .next t sent) (bodies : List Bytes) :
    beforeExit (body :: bodies) = body :: beforeExit bodies := by
  have hgoes : isExit body = false := by
    by_contra hexit
    obtain ⟨code, hcode⟩ := (exists_receive_eq_exit_iff s body).mpr (eq_true_of_ne_false hexit)
    cases h.symm.trans hcode
  exact List.takeWhile_cons_of_pos (by simp [hgoes])

/-- Each message before the end gets what it may get. -/
theorem forall₂_reply_run (s : Server) (bodies : List Bytes) :
    List.Forall₂ Reply (beforeExit bodies) (s.run bodies).2 := by
  induction bodies generalizing s with
  | nil => exact .nil
  | cons body bodies ih =>
    rw [run]
    cases hturn : s.receive body with
    | exit code =>
      rw [beforeExit_of_exit hturn]
      exact .nil
    | next t sent =>
      rw [beforeExit_of_next hturn]
      exact .cons ((effect_receive s body).reply hturn) (ih t)

/-- A message that is refused leaves the documents, the board and the wish to shut down as they
were. The layout is the same too, unless the message is a start with a known layout and an unknown
board, which leaves its layout behind. -/
theorem refused_state (h : s.receive body = .next t (some (.failure id fault))) :
    t.documents = s.documents ∧ t.isShutDown = s.isShutDown ∧ t.target.board = s.target.board ∧
      t.target.layout = (leftLayout? body).getD s.target.layout := by
  rw [(effect_receive s body).eq_of_failure h]
  exact ⟨rfl, rfl, rfl, rfl⟩

/-- A message that starts a session with a layout and a board. -/
def startBody (layout board : Bytes) : Bytes :=
  ("\x7b\"method\":\"initialize\",\"params\":\x7b\"initializationOptions\":\x7b" : Bytes) ++
    "\"layout\":\"" ++ layout ++ "\",\"board\":\"" ++ board ++ "\"\x7d\x7d\x7d"

/-- Whether a message is refused and a given layout is set then. -/
def refusesWith (s : Server) (body layout : Bytes) : Bool :=
  match s.receive body with
  | .next t (some (.failure _ _)) => t.target.layout == layout
  | _ => false

theorem exists_of_refusesWith {layout : Bytes} (h : s.refusesWith body layout = true) :
    ∃ t id fault, s.receive body = .next t (some (.failure id fault)) ∧
      t.target.layout = layout := by
  unfold refusesWith at h
  split at h
  · exact ⟨_, _, _, ‹_›, beq_iff_eq.mp h⟩
  · contradiction

/-- Where neither the layout nor the board is known, the layout is as it was. -/
theorem refused_state_unknown_layout :
    ∃ t id fault, ({ target.layout := "uk" } : Server).receive (startBody "fr" "uno") =
        .next t (some (.failure id fault)) ∧
      (t.documents = {} ∧ t.isShutDown = false ∧ t.target.board = "leonardo" ∧
        t.target.layout = (leftLayout? (startBody "fr" "uno")).getD "uk") ∧
      t.target.layout = "uk" := by
  have hrefused : ({ target.layout := "uk" } : Server).refusesWith (startBody "fr" "uno") "uk" =
      true := by decide +kernel
  obtain ⟨t, id, fault, h, hlayout⟩ := exists_of_refusesWith hrefused
  exact ⟨t, id, fault, h, refused_state h, hlayout⟩

/-- Where the layout is known and the board is not, the layout is not as it was. -/
theorem refused_state_unknown_board :
    ¬∀ (s t : Server) (body : Bytes) (id : Json) (fault : Fault),
      s.receive body = .next t (some (.failure id fault)) → t.target.layout = s.target.layout := by
  intro hall
  have hrefused : ({} : Server).refusesWith (startBody "de" "uno") "de" = true := by decide +kernel
  obtain ⟨t, id, fault, h, hlayout⟩ := exists_of_refusesWith hrefused
  have hsame := hall _ _ _ _ _ h
  rw [hlayout] at hsame
  exact absurd hsame (by decide)

end Server

/-- In a session, each message before the end gets the answer it is owed, and no other, and besides
answers only diagnostics are sent, one time at most for a document that is opened or changed. The
message that ends the session and what follows get nothing. Nor does it matter how the bytes of the
messages are cut into chunks. -/
theorem session_replies (s : Server) :
    (∀ bodies, List.Forall₂ Reply (beforeExit bodies) (s.run bodies).2) ∧
      ∀ chunks, (({ server := s } : Connection).feedAll chunks).2 =
        (s.run (received chunks.flatten)).2.filterMap id :=
  ⟨s.forall₂_reply_run, fun chunks => (Connection.feedAll_eq_run s chunks).2⟩

end KeyScript
