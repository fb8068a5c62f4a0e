import IndustrialReliability.Console.EditorCascade

/-!
Undo and redo in the lab editor.

Both stacks are cut when something is pushed on them, so a step back or forth can be
taken back only where there is room. There always is: the two stacks never hold more
than one of them may (`Bounded`), since an edit clears the one and pushes on the other,
and a step moves an entry from one to the other.
-/

namespace IndustrialReliability.Editor

variable {N : Type} {present next previous : LabDefinition N} {past future : List (LabDefinition N)}
  {state : EditorHistoryState N} {randomUUID randomUUID' : String}

namespace EditorHistoryState

/-- The versions of the lab from the oldest to the last undone. -/
def timeline (state : EditorHistoryState N) : List (LabDefinition N) :=
  state.past ++ state.present.toList ++ state.future

/-- The stacks have room for a step, and are empty where there is no lab. -/
structure Bounded (state : EditorHistoryState N) : Prop where
  room : state.past.length + state.future.length ≤ MAX_HISTORY
  begun : state.present = none → state.past = [] ∧ state.future = []

end EditorHistoryState

open EditorHistoryState

theorem bounded_initial (lab : Option (LabDefinition N)) : (initialEditorState lab).Bounded :=
  ⟨Nat.zero_le _, fun _ => ⟨rfl, rfl⟩⟩

/-- Nothing is cut from a list that is short enough. -/
theorem latest_eq_self {labs : List (LabDefinition N)} (short : labs.length ≤ MAX_HISTORY) : latest labs = labs := by
  simp [latest, Nat.sub_eq_zero_of_le short]

theorem length_latest_le (labs : List (LabDefinition N)) : (latest labs).length ≤ MAX_HISTORY := by
  simp [latest]
  omega

/-- A state with something to undo. -/
theorem EditorHistoryState.Bounded.exists_undo (bounded : state.Bounded) (undoable : state.past ≠ []) :
    ∃ present past previous future, state = ⟨some present, past ++ [previous], future⟩ ∧
      past.length + future.length < MAX_HISTORY := by
  obtain ⟨_ | present, past, future⟩ := state
  · exact absurd (bounded.begun rfl).1 undoable
  · obtain ⟨past, previous, rfl⟩ := List.eq_nil_or_concat' past |>.resolve_left undoable
    have room := bounded.room
    simp only [List.length_append, List.length_singleton] at room
    exact ⟨present, past, previous, future, rfl, by omega⟩

/-- A state with something to redo. -/
theorem EditorHistoryState.Bounded.exists_redo (bounded : state.Bounded) (redoable : state.future ≠ []) :
    ∃ present past next future, state = ⟨some present, past, next :: future⟩ ∧
      past.length + future.length < MAX_HISTORY := by
  obtain ⟨_ | present, past, _ | ⟨next, future⟩⟩ := state
  · exact absurd rfl redoable
  · exact absurd (bounded.begun rfl).2 redoable
  · exact absurd rfl redoable
  · have room := bounded.room
    simp only [List.length_cons] at room
    exact ⟨present, past, next, future, rfl, by omega⟩

section Steps

variable [JsNumber N]

/-- A step back with room. -/
theorem undo_eq (room : future.length < MAX_HISTORY) :
    editorReducer randomUUID ⟨some present, past ++ [previous], future⟩ .undo =
      ⟨some previous, past, present :: future⟩ := by
  have short : (present :: future).length ≤ MAX_HISTORY := room
  simp [editorReducer, List.take_of_length_le short]

theorem undo_eq_self (none : state.past = []) : editorReducer randomUUID state .undo = state := by
  obtain ⟨_ | present, past, future⟩ := state
  · rfl
  · cases none
    rfl

theorem redo_eq_self (none : state.future = []) : editorReducer randomUUID state .redo = state := by
  obtain ⟨_ | present, past, future⟩ := state
  · rfl
  · cases none
    rfl

/-- A step forth with room. -/
theorem redo_eq (room : past.length < MAX_HISTORY) :
    editorReducer randomUUID ⟨some present, past, next :: future⟩ .redo =
      ⟨some next, past ++ [present], future⟩ := by
  have short : (past ++ [present]).length ≤ MAX_HISTORY := by simpa [Nat.succ_le_iff] using room
  simp [editorReducer, latest_eq_self short]

theorem EditorHistoryState.Bounded.redo_undo (bounded : state.Bounded) (undoable : state.past ≠ []) :
    editorReducer randomUUID' (editorReducer randomUUID state .undo) .redo = state := by
  obtain ⟨present, past, previous, future, rfl, room⟩ := bounded.exists_undo undoable
  rw [undo_eq (by omega), redo_eq (by omega)]

theorem EditorHistoryState.Bounded.undo_redo (bounded : state.Bounded) (redoable : state.future ≠ []) :
    editorReducer randomUUID' (editorReducer randomUUID state .redo) .undo = state := by
  obtain ⟨present, past, next, future, rfl, room⟩ := bounded.exists_redo redoable
  rw [redo_eq (by omega), undo_eq (by omega)]

/-! ### Sequences of actions -/

/-- A step moves along the versions and keeps them all. -/
theorem EditorHistoryState.Bounded.move (bounded : state.Bounded) (randomUUID : String) {action : EditorAction N}
    (either : action = .undo ∨ action = .redo) :
    (editorReducer randomUUID state action).Bounded ∧
      (editorReducer randomUUID state action).timeline = state.timeline := by
  rcases either with rfl | rfl
  · by_cases undoable : state.past = []
    · rw [undo_eq_self undoable]
      exact ⟨bounded, rfl⟩
    · obtain ⟨present, past, previous, future, rfl, room⟩ := bounded.exists_undo undoable
      rw [undo_eq (by omega)]
      refine ⟨⟨?_, fun none => (nomatch none)⟩, by simp [timeline]⟩
      simp only [List.length_cons]
      omega
  · by_cases redoable : state.future = []
    · rw [redo_eq_self redoable]
      exact ⟨bounded, rfl⟩
    · obtain ⟨present, past, next, future, rfl, room⟩ := bounded.exists_redo redoable
      rw [redo_eq (by omega)]
      refine ⟨⟨?_, fun none => (nomatch none)⟩, by simp [timeline]⟩
      simp only [List.length_append, List.length_singleton]
      omega

theorem EditorHistoryState.Bounded.step (bounded : state.Bounded) (randomUUID : String) (action : EditorAction N) :
    (editorReducer randomUUID state action).Bounded := by
  cases editorReducer_reduced randomUUID state action with
  | begun payload set after =>
      rw [after]
      exact bounded_initial (some payload)
  | went either => exact (bounded.move randomUUID either).1
  | absent none same =>
      rw [same]
      exact bounded
  | changed current next held edit after =>
      rw [after]
      exact ⟨length_latest_le _, fun none => (nomatch none)⟩

theorem bounded_edited (lab : Option (LabDefinition N)) (dispatches : List (Dispatch N)) :
    (edited (initialEditorState lab) dispatches).Bounded := by
  induction dispatches using List.reverseRecOn with
  | nil => exact bounded_initial lab
  | append_singleton dispatches last ih =>
      rw [edited_concat]
      exact ih.step last.randomUUID last.action

/-- Steps alone lose no version. -/
theorem EditorHistoryState.Bounded.moves (bounded : state.Bounded) {moves : List (Dispatch N)}
    (steps : ∀ move ∈ moves, move.action = .undo ∨ move.action = .redo) :
    (edited state moves).Bounded ∧ (edited state moves).timeline = state.timeline := by
  induction moves using List.reverseRecOn with
  | nil => exact ⟨bounded, rfl⟩
  | append_singleton moves last ih =>
      obtain ⟨bounded', kept⟩ := ih fun move mem => steps move (List.mem_append_left _ mem)
      obtain ⟨after, same⟩ := bounded'.move last.randomUUID (steps last (by simp))
      rw [edited_concat]
      exact ⟨after, same.trans kept⟩

/-- In every state of the editor undo and redo are inverse, and lose nothing however
often they are used. -/
theorem undo_redo_inverse (lab : Option (LabDefinition N)) (dispatches : List (Dispatch N)) :
    let state := edited (initialEditorState lab) dispatches
    state.past.length + state.future.length ≤ 100 ∧
      (state.past ≠ [] → ∀ first second,
        editorReducer second (editorReducer first state .undo) .redo = state) ∧
      (state.future ≠ [] → ∀ first second,
        editorReducer second (editorReducer first state .redo) .undo = state) ∧
      ∀ moves : List (Dispatch N), (∀ move ∈ moves, move.action = .undo ∨ move.action = .redo) →
        (edited state moves).timeline = state.timeline := by
  have bounded := bounded_edited lab dispatches
  exact ⟨bounded.room, fun undoable _ _ => bounded.redo_undo undoable,
    fun redoable _ _ => bounded.undo_redo redoable, fun _ steps => (bounded.moves steps).2⟩

end Steps

end IndustrialReliability.Editor
