import KeyScript.Sketch.Target

/-!
# Known layouts and boards

A name is read as the layout or the board that has it, and a name that none has is an error. A
target with the names of a layout and a board is valid.

## Main results

- `Layout.ofName_cases`, `Board.ofName_cases` — what a name is read as
- `Target.validate_name` — a target with the names of a layout and a board
-/

namespace KeyScript

/-- Data are found by their name, if there are data with this name. -/
theorem find?_name_cases {α : Type} (all : List α) (nameOf : α → Bytes) (name : Bytes) :
    (∃ a, all.find? (fun a => nameOf a == name) = some a ∧ nameOf a = name ∧
        name ∈ all.map nameOf) ∨
      all.find? (fun a => nameOf a == name) = none ∧ name ∉ all.map nameOf := by
  cases hfind : all.find? fun a => nameOf a == name with
  | some a =>
    have hname : nameOf a = name := by simpa using List.find?_some hfind
    exact .inl ⟨a, rfl, hname, List.mem_map.mpr ⟨a, List.mem_of_find?_eq_some hfind, hname⟩⟩
  | none =>
    refine .inr ⟨rfl, fun hmem => ?_⟩
    obtain ⟨a, ha, hname⟩ := List.mem_map.mp hmem
    simpa [hname] using List.find?_eq_none.mp hfind a ha

theorem Layout.ofName_cases (name : Bytes) :
    (∃ l : Layout, ofName name = .ok l ∧ l.name = name ∧ name ∈ all.map Layout.name) ∨
      ofName name = .error (.unknownLayout name) ∧ name ∉ all.map Layout.name := by
  unfold ofName
  rcases find?_name_cases all Layout.name name with ⟨l, hfind, h⟩ | ⟨hfind, h⟩
  · exact .inl ⟨l, by rw [hfind], h⟩
  · exact .inr ⟨by rw [hfind], h⟩

theorem Board.ofName_cases (name : Bytes) :
    (∃ b : Board, ofName name = .ok b ∧ b.name = name ∧ name ∈ all.map Board.name) ∨
      ofName name = .error (.unknownBoard name) ∧ name ∉ all.map Board.name := by
  unfold ofName
  rcases find?_name_cases all Board.name name with ⟨b, hfind, h⟩ | ⟨hfind, h⟩
  · exact .inl ⟨b, by rw [hfind], h⟩
  · exact .inr ⟨by rw [hfind], h⟩

theorem Target.validate_name (l : Layout) (b : Board) :
    ({ layout := l.name, board := b.name } : Target).validate = .ok () := by
  cases l <;> cases b <;> rfl

end KeyScript
