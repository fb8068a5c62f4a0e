import IndustrialReliability.Console.Editor
import IndustrialReliability.Lib.Logs

/-!
Deletion in the lab editor.

A draft is closed when its pipes and sensors refer to what it holds. Every edit keeps
that but a deletion that leaves a sensor behind: the pipes of a deleted asset are
deleted with it, and the flow sensors on those pipes are not. The main theorem says of
every sequence of actions that it keeps to closed drafts exactly when none of its
deletions does that (`LabDefinition.Cascades`).
-/

namespace IndustrialReliability.Editor

open Lib

variable {N : Type} {lab current next : LabDefinition N} {action : EditorAction N}
  {state : EditorHistoryState N} {randomUUID : String}

namespace LabDefinition

/-- An asset of the lab has the id. -/
def HasAsset (lab : LabDefinition N) (assetId : String) : Prop :=
  ∃ asset ∈ lab.assets, asset.assetId = assetId

/-- A port of an asset of the lab, or a pipe of it. -/
def HasTarget (lab : LabDefinition N) : SensorTarget → Prop
  | .port ref => ∃ asset ∈ lab.assets, asset.assetId = ref.assetId ∧ ref.port ∈ VALID_PORTS_BY_ASSET_TYPE asset.type
  | .pipe id => ∃ pipe ∈ lab.pipes, pipe.pipeId = id

/-- Pipes and sensors refer to what the lab holds. -/
structure Closed (lab : LabDefinition N) : Prop where
  pipes : ∀ pipe ∈ lab.pipes, lab.HasAsset pipe.fromPort.assetId ∧ lab.HasAsset pipe.toPort.assetId
  sensors : ∀ sensor ∈ lab.sensors, lab.HasTarget sensor.target

/-- What an action refers to is there. -/
def Admits (lab : LabDefinition N) : EditorAction N → Prop
  | .addPipe fromPort toPort _ => lab.HasAsset fromPort.assetId ∧ lab.HasAsset toPort.assetId
  | .addSensor payload => lab.HasTarget payload.target
  | _ => True

/-- A deletion leaves no sensor behind: with an asset go no pipe that a sensor is on and
no port that a flow sensor is on, with a pipe none that a pressure sensor is on. -/
def Cascades (lab : LabDefinition N) : EditorAction N → Prop
  | .deleteAsset targetId => ∀ sensor ∈ lab.sensors,
      (∀ id, sensor.target = .pipe id → ∃ pipe ∈ lab.pipes, pipe.pipeId = id ∧
        pipe.fromPort.assetId ≠ targetId ∧ pipe.toPort.assetId ≠ targetId) ∧
      ∀ ref, sensor.target = .port ref → sensor.kind = .FLOW → ref.assetId ≠ targetId
  | .deletePipe targetPipeId => ∀ sensor ∈ lab.sensors, sensor.kind = .PRESSURE →
      sensor.target ≠ .pipe targetPipeId
  | _ => True

/-! ### Labs with as much in them -/

/-- The assets of a lab are in the other, with their types. -/
def AssetsKept (lab next : LabDefinition N) : Prop :=
  ∀ asset ∈ lab.assets, ∃ asset' ∈ next.assets, asset'.assetId = asset.assetId ∧ asset'.type = asset.type

theorem AssetsKept.hasAsset (kept : lab.AssetsKept next) {assetId : String} (has : lab.HasAsset assetId) :
    next.HasAsset assetId := by
  obtain ⟨asset, mem, rfl⟩ := has
  obtain ⟨asset', mem', same, -⟩ := kept asset mem
  exact ⟨asset', mem', same⟩

theorem AssetsKept.hasTarget (kept : lab.AssetsKept next) (pipes : lab.pipes ⊆ next.pipes)
    {target : SensorTarget} (has : lab.HasTarget target) : next.HasTarget target := by
  cases target with
  | port ref =>
      obtain ⟨asset, mem, named, valid⟩ := has
      obtain ⟨asset', mem', same, type⟩ := kept asset mem
      exact ⟨asset', mem', same.trans named, type ▸ valid⟩
  | pipe id =>
      obtain ⟨pipe, mem, named⟩ := has
      exact ⟨pipe, pipes mem, named⟩

/-- An edit that keeps the assets and the pipes, and whose new pipes and sensors refer to
what was there. -/
theorem Closed.grows (closed : current.Closed) (kept : current.AssetsKept next)
    (old : current.pipes ⊆ next.pipes)
    (pipes : ∀ pipe ∈ next.pipes, pipe ∈ current.pipes ∨
      current.HasAsset pipe.fromPort.assetId ∧ current.HasAsset pipe.toPort.assetId)
    (sensors : ∀ sensor ∈ next.sensors, sensor ∈ current.sensors ∨ current.HasTarget sensor.target) :
    next.Closed where
  pipes pipe mem := by
    obtain ⟨one, other⟩ := (pipes pipe mem).elim (closed.pipes pipe) id
    exact ⟨kept.hasAsset one, kept.hasAsset other⟩
  sensors sensor mem := kept.hasTarget old ((sensors sensor mem).elim (closed.sensors sensor) id)

theorem assetsKept_of_subset (assets : lab.assets ⊆ next.assets) : lab.AssetsKept next :=
  fun asset mem => ⟨asset, assets mem, rfl, rfl⟩

theorem assetsKept_changeAsset [JsNumber N] {assetId : String} {change : Asset N → Asset N}
    (id : ∀ asset, (change asset).assetId = asset.assetId) (type : ∀ asset, (change asset).type = asset.type) :
    lab.AssetsKept (lab.changeAsset assetId change) := by
  intro asset mem
  refine ⟨_, List.mem_map_of_mem mem, ?_⟩
  by_cases here : asset.assetId = assetId
  · simp [here, id, type]
  · simp [here]

/-! ### One edit -/

theorem keptWithoutAsset_iff {targetId : String} {sensor : Sensor N} :
    keptWithoutAsset targetId sensor = true ↔
      ∀ ref, sensor.target = .port ref → sensor.kind = .PRESSURE → ref.assetId ≠ targetId := by
  obtain ⟨⟨kind, target, -, -, -⟩, -⟩ := sensor
  cases kind <;> cases target <;> simp [keptWithoutAsset]

section Edits

variable [JsNumber N]

theorem deleteAsset_closed_iff (closed : current.Closed) {targetId : String}
    (edit : nextLab randomUUID current (.deleteAsset targetId) = some next) :
    next.Closed ↔ current.Cascades (.deleteAsset targetId) := by
  obtain rfl := Option.some.inj edit
  constructor
  · intro after sensor mem
    have stays (kept : keptWithoutAsset targetId sensor = true) :=
      after.sensors sensor (List.mem_filter.mpr ⟨mem, kept⟩)
    rw [keptWithoutAsset_iff] at stays
    refine ⟨fun id at_pipe => ?_, fun ref at_port flow => ?_⟩
    · have has := stays (by simp [at_pipe])
      rw [at_pipe] at has
      obtain ⟨pipe, mem, named⟩ := has
      exact ⟨pipe, by simpa [named] using mem⟩
    · have has := stays (by simp [flow])
      rw [at_port] at has
      obtain ⟨asset, mem, named, -⟩ := has
      simp only [List.mem_filter, decide_eq_true_eq] at mem
      exact named ▸ mem.2
  · intro cascades
    refine ⟨fun pipe mem => ?_, fun sensor mem => ?_⟩
    · simp only [List.mem_filter, decide_eq_true_eq] at mem
      obtain ⟨mem, from_other, to_other⟩ := mem
      obtain ⟨⟨one, one_mem, one_named⟩, ⟨other, other_mem, other_named⟩⟩ := closed.pipes pipe mem
      exact ⟨⟨one, by simp [one_mem, one_named, from_other], one_named⟩,
        ⟨other, by simp [other_mem, other_named, to_other], other_named⟩⟩
    · obtain ⟨mem, kept⟩ := List.mem_filter.mp mem
      rw [keptWithoutAsset_iff] at kept
      obtain ⟨on_pipes, on_ports⟩ := cascades sensor mem
      have has := closed.sensors sensor mem
      cases target : sensor.target with
      | pipe id =>
          obtain ⟨pipe, mem, named, apart⟩ := on_pipes id target
          exact ⟨pipe, by simp [mem, apart], named⟩
      | port ref =>
          rw [target] at has
          obtain ⟨asset, mem, named, valid⟩ := has
          have other : ref.assetId ≠ targetId := by
            cases kind : sensor.kind with
            | PRESSURE => exact kept ref target kind
            | FLOW => exact on_ports ref target kind
          exact ⟨asset, by simp [mem, named, other], named, valid⟩

theorem deletePipe_closed_iff (closed : current.Closed) {targetPipeId : String}
    (edit : nextLab randomUUID current (.deletePipe targetPipeId) = some next) :
    next.Closed ↔ current.Cascades (.deletePipe targetPipeId) := by
  obtain rfl := Option.some.inj edit
  constructor
  · intro after sensor mem pressure at_pipe
    have has := after.sensors sensor (List.mem_filter.mpr ⟨mem, by simp [pressure]⟩)
    rw [at_pipe] at has
    obtain ⟨pipe, mem, named⟩ := has
    simp [named] at mem
  · intro cascades
    refine ⟨fun pipe mem => closed.pipes pipe (List.mem_filter.mp mem).1, fun sensor mem => ?_⟩
    simp only [List.mem_filter, decide_eq_true_eq] at mem
    obtain ⟨mem, other⟩ := mem
    have has := closed.sensors sensor mem
    cases target : sensor.target with
    | port ref =>
        rw [target] at has
        exact has
    | pipe id =>
        rw [target] at has
        obtain ⟨pipe, pipe_mem, named⟩ := has
        have apart : pipe.pipeId ≠ targetPipeId := by
          rintro rfl
          rw [← named] at target
          cases kind : sensor.kind with
          | PRESSURE => exact cascades sensor mem kind target
          | FLOW => exact other ⟨kind, target⟩
        exact ⟨pipe, by simp [pipe_mem, apart], named⟩

/-- An edit of a closed lab that refers to what is there leaves a closed one exactly when
it leaves no sensor behind. -/
theorem nextLab_closed_iff (closed : current.Closed) (admits : current.Admits action)
    (edit : nextLab randomUUID current action = some next) : next.Closed ↔ current.Cascades action := by
  have grown (kept : current.AssetsKept next) (old : current.pipes ⊆ next.pipes)
      (pipes : ∀ pipe ∈ next.pipes, pipe ∈ current.pipes ∨
        current.HasAsset pipe.fromPort.assetId ∧ current.HasAsset pipe.toPort.assetId)
      (sensors : ∀ sensor ∈ next.sensors, sensor ∈ current.sensors ∨ current.HasTarget sensor.target) :
      next.Closed ↔ True := iff_of_true (closed.grows kept old pipes sensors) trivial
  cases action with
  | deleteAsset => exact deleteAsset_closed_iff closed edit
  | deletePipe => exact deletePipe_closed_iff closed edit
  | setLab | undo | redo => cases edit
  | addAsset =>
      obtain rfl := Option.some.inj edit
      exact grown (assetsKept_of_subset (List.subset_append_left _ _)) (List.Subset.refl _)
        (fun _ => .inl) (fun _ => .inl)
  | moveAsset | rotateAsset | updateAssetParams =>
      obtain rfl := Option.some.inj edit
      exact grown (assetsKept_changeAsset (fun _ => rfl) (fun _ => rfl)) (List.Subset.refl _)
        (fun _ => .inl) (fun _ => .inl)
  | addPipe =>
      obtain rfl := Option.some.inj edit
      refine grown (assetsKept_of_subset (List.Subset.refl _)) (List.subset_append_left _ _)
        (fun pipe mem => ?_) (fun _ => .inl)
      rcases List.mem_append.mp mem with mem | mem
      · exact .inl mem
      · obtain rfl := List.mem_singleton.mp mem
        exact .inr admits
  | addSensor =>
      obtain rfl := Option.some.inj edit
      refine grown (assetsKept_of_subset (List.Subset.refl _)) (List.Subset.refl _)
        (fun _ => .inl) (fun sensor mem => ?_)
      rcases List.mem_append.mp mem with mem | mem
      · exact .inl mem
      · obtain rfl := List.mem_singleton.mp mem
        exact .inr admits
  | deleteSensor =>
      obtain rfl := Option.some.inj edit
      exact grown (assetsKept_of_subset (List.Subset.refl _)) (List.Subset.refl _)
        (fun _ => .inl) (fun _ mem => .inl (List.mem_filter.mp mem).1)
  | arrangeAssets =>
      obtain rfl := Option.some.inj edit
      refine grown (fun asset mem => ?_) (List.Subset.refl _) (fun _ => .inl) (fun _ => .inl)
      obtain ⟨idx, inside, rfl⟩ := List.mem_iff_getElem.mp mem
      exact ⟨_, List.mem_mapIdx.mpr ⟨idx, inside, rfl⟩, rfl, rfl⟩

end Edits

end LabDefinition

/-! ### Sequences of actions -/

namespace EditorHistoryState

/-- The versions of the lab that a state holds. -/
def labs (state : EditorHistoryState N) : List (LabDefinition N) :=
  state.present.toList ++ state.past ++ state.future

/-- The lab, and everything that can be brought back. -/
def Closed (state : EditorHistoryState N) : Prop := ∀ lab ∈ state.labs, lab.Closed

theorem Closed.present (closed : state.Closed) (held : state.present = some lab) : lab.Closed :=
  closed lab (by simp [labs, held])

/-- The lab that is edited is closed. -/
def LabClosed (state : EditorHistoryState N) : Prop := ∀ lab, state.present = some lab → lab.Closed

/-- A payload is closed, and what an action refers to is there. -/
structure Admits (state : EditorHistoryState N) (action : EditorAction N) : Prop where
  payload : ∀ payload, action = .setLab payload → payload.Closed
  refers : ∀ current, state.present = some current → current.Admits action

/-- The action leaves no sensor behind in the lab that is edited. -/
def Cascades (state : EditorHistoryState N) (action : EditorAction N) : Prop :=
  ∀ current, state.present = some current → current.Cascades action

end EditorHistoryState

theorem latest_subset (labs : List (LabDefinition N)) : latest labs ⊆ labs := List.drop_subset _ _

section Sequences

variable [JsNumber N]

/-- What an action does to the versions: it begins with another lab, goes to one that
is kept, or edits the present one. -/
inductive Reduced (randomUUID : String) (state state' : EditorHistoryState N) (action : EditorAction N) : Prop where
  | begun (payload : LabDefinition N) (set : action = .setLab payload) (after : state' = ⟨some payload, [], []⟩)
  | went (either : action = .undo ∨ action = .redo) (kept : state'.labs ⊆ state.labs)
  | absent (none : state.present = none) (same : state' = state)
  | changed (current next : LabDefinition N) (held : state.present = some current)
      (edit : nextLab randomUUID current action = some next)
      (after : state' = ⟨some next, latest (state.past ++ [current]), []⟩)

theorem undo_labs_subset : (editorReducer randomUUID state .undo).labs ⊆ state.labs := by
  obtain ⟨_ | present, past, future⟩ := state
  · exact List.Subset.refl _
  · cases last : past.getLast? with
    | none => simp [editorReducer, last]
    | some previous =>
        have held := List.mem_of_getLast? last
        have older := List.dropLast_subset past
        have newer := List.take_subset MAX_HISTORY (present :: future)
        intro lab mem
        simp only [editorReducer, last, EditorHistoryState.labs, List.mem_append, Option.mem_toList,
          Option.some.injEq] at mem ⊢
        rcases mem with (rfl | mem) | mem
        · exact .inl (.inr held)
        · exact .inl (.inr (older mem))
        · rcases List.mem_cons.mp (newer mem) with rfl | mem
          · exact .inl (.inl rfl)
          · exact .inr mem

theorem redo_labs_subset : (editorReducer randomUUID state .redo).labs ⊆ state.labs := by
  obtain ⟨_ | present, past, _ | ⟨next, future⟩⟩ := state
  · exact List.Subset.refl _
  · exact List.Subset.refl _
  · exact List.Subset.refl _
  · have older := latest_subset (past ++ [present])
    intro lab mem
    simp only [editorReducer, EditorHistoryState.labs, List.mem_append, Option.mem_toList,
      Option.some.injEq, List.mem_cons] at mem ⊢
    rcases mem with (rfl | mem) | mem
    · exact .inr (.inl rfl)
    · rcases List.mem_append.mp (older mem) with mem | mem
      · exact .inl (.inr mem)
      · exact .inl (.inl (List.mem_singleton.mp mem).symm)
    · exact .inr (.inr mem)

theorem editorReducer_reduced (randomUUID : String) (state : EditorHistoryState N) (action : EditorAction N) :
    Reduced randomUUID state (editorReducer randomUUID state action) action := by
  obtain ⟨present, past, future⟩ := state
  cases action with
  | setLab payload => exact .begun payload rfl rfl
  | undo => exact .went (.inl rfl) undo_labs_subset
  | redo => exact .went (.inr rfl) redo_labs_subset
  | addAsset | moveAsset | rotateAsset | updateAssetParams | deleteAsset | addPipe | deletePipe | addSensor |
      deleteSensor | arrangeAssets =>
      cases present with
      | none => exact .absent rfl rfl
      | some current => exact .changed current _ rfl rfl rfl

namespace EditorHistoryState

/-- One action: an edit that leaves no sensor behind keeps everything closed, and any
other leaves the lab open. -/
theorem Closed.step (closed : state.Closed) (admits : state.Admits action) :
    ((editorReducer randomUUID state action).LabClosed ↔ state.Cascades action) ∧
      (state.Cascades action → (editorReducer randomUUID state action).Closed) := by
  have all (after : (editorReducer randomUUID state action).Closed) (cascades : state.Cascades action) :
      ((editorReducer randomUUID state action).LabClosed ↔ state.Cascades action) ∧
        (state.Cascades action → (editorReducer randomUUID state action).Closed) :=
    ⟨iff_of_true (fun _ => after.present) cascades, fun _ => after⟩
  cases editorReducer_reduced randomUUID state action with
  | begun payload set after =>
      subst set
      refine all ?_ fun _ _ => trivial
      rw [after]
      simpa [Closed, labs] using admits.payload payload rfl
  | went either kept =>
      refine all (fun lab mem => closed lab (kept mem)) fun _ _ => ?_
      rcases either with rfl | rfl <;> trivial
  | absent none same =>
      rw [same]
      refine ⟨iff_of_true ?_ ?_, fun _ => closed⟩ <;> simp [LabClosed, Cascades, none]
  | changed current next held edit after =>
      have here := LabDefinition.nextLab_closed_iff (closed.present held) (admits.refers current held) edit
      have cascades : state.Cascades action ↔ current.Cascades action := by simp [Cascades, held]
      rw [after, cascades, ← here]
      refine ⟨by simp [LabClosed], fun next_closed lab mem => ?_⟩
      simp only [labs, Option.toList_some, List.append_nil, List.cons_append, List.nil_append,
        List.mem_cons] at mem
      rcases mem with rfl | mem
      · exact next_closed
      · rcases List.mem_append.mp (latest_subset _ mem) with mem | mem
        · exact closed lab (by simp [labs, mem])
        · obtain rfl := List.mem_singleton.mp mem
          exact closed.present held

end EditorHistoryState

variable {start : EditorHistoryState N} {dispatches : List (Dispatch N)}

theorem edited_concat (start : EditorHistoryState N) (dispatches : List (Dispatch N)) (last : Dispatch N) :
    edited start (dispatches ++ [last]) =
      editorReducer last.randomUUID (edited start dispatches) last.action := by
  simp [edited]

/-- Every payload is closed, and every action refers to what is there. -/
def Admitted (start : EditorHistoryState N) (dispatches : List (Dispatch N)) : Prop :=
  Recorded (fun before dispatch => (edited start before).Admits dispatch.action) dispatches

/-- No deletion leaves a sensor behind. -/
def Cascading (start : EditorHistoryState N) (dispatches : List (Dispatch N)) : Prop :=
  Recorded (fun before dispatch => (edited start before).Cascades dispatch.action) dispatches

theorem edited_closed (closed : start.Closed) (admitted : Admitted start dispatches)
    (cascading : Cascading start dispatches) : (edited start dispatches).Closed := by
  induction dispatches using List.reverseRecOn with
  | nil => exact closed
  | append_singleton dispatches last ih =>
      obtain ⟨admitted, admits⟩ := recorded_concat_iff.mp admitted
      obtain ⟨cascading, cascades⟩ := recorded_concat_iff.mp cascading
      rw [edited_concat]
      exact ((ih admitted cascading).step admits).2 cascades

/-- Editing keeps to closed labs exactly when every deletion finds all that refers to
what it deletes. -/
theorem edited_labClosed_iff (closed : start.Closed) (admitted : Admitted start dispatches) :
    (∀ before, before <+: dispatches → (edited start before).LabClosed) ↔ Cascading start dispatches := by
  induction dispatches using List.reverseRecOn with
  | nil =>
      refine iff_of_true (fun before inside => ?_) recorded_nil
      obtain rfl := List.prefix_nil.mp inside
      exact fun _ => closed.present
  | append_singleton dispatches last ih =>
      obtain ⟨admitted, admits⟩ := recorded_concat_iff.mp admitted
      have ih := ih admitted
      have here (cascading : Cascading start dispatches) :
          (edited start (dispatches ++ [last])).LabClosed ↔ (edited start dispatches).Cascades last.action := by
        rw [edited_concat]
        exact ((edited_closed closed admitted cascading).step admits).1
      constructor
      · intro all
        have cascading := ih.mp fun before inside => all before (inside.trans (List.prefix_append _ _))
        exact recorded_concat_iff.mpr ⟨cascading, (here cascading).mp (all _ (List.prefix_refl _))⟩
      · intro cascading before inside
        obtain ⟨cascading, cascades⟩ := recorded_concat_iff.mp cascading
        rcases List.prefix_concat_iff.mp inside with rfl | shorter
        · exact (here cascading).mpr cascades
        · exact ih.mpr cascading before shorter

end Sequences

/-! ### Two sequences -/

/-- Two tanks, a pipe between them and a flow sensor on it. -/
def metered : LabDefinition ℚ where
  schemaVersion := "2.0"
  labId := "lab"
  revision := 1
  name := "Two tanks"
  assets := ["left", "right"].map fun assetId => {
    assetId
    type := .tank
    positionM := (0, 0, 0)
    rotationYRad := 0
    parameters := DEFAULT_PARAMETERS_BY_ASSET_TYPE .tank }
  pipes := [⟨"pipe", ⟨"left", .B⟩, ⟨"right", .A⟩, 2 / 10000000, []⟩]
  sensors := [⟨⟨.FLOW, .pipe "pipe", 0, none, none⟩, "meter"⟩]
  sceneRevision := ""

theorem metered_closed : (initialEditorState (some metered)).Closed := by
  intro lab mem
  obtain rfl : lab = metered := by simpa [initialEditorState, EditorHistoryState.labs] using mem
  constructor <;> simp [metered, LabDefinition.HasAsset, LabDefinition.HasTarget]

theorem metered_admitted (dispatches : List (Dispatch ℚ))
    (plain : ∀ dispatch ∈ dispatches, dispatch.action = .undo ∨ ∃ id, dispatch.action = .deletePipe id ∨
      dispatch.action = .deleteAsset id) : Admitted (initialEditorState (some metered)) dispatches := by
  rintro before dispatch after rfl
  obtain here | ⟨id, here | here⟩ := plain dispatch (by simp) <;> rw [here] <;>
    exact ⟨nofun, fun _ _ => trivial⟩

/-- Deleting the pipe takes the sensor with it, and both come back. -/
theorem metered_deletePipe_cascades :
    (edited (initialEditorState (some metered)) [⟨.deletePipe "pipe", ""⟩]).LabClosed ∧
      (edited (initialEditorState (some metered))
        [⟨.deletePipe "pipe", ""⟩, ⟨.undo, ""⟩]).LabClosed := by
  have closed : ∀ before, before <+: [⟨.deletePipe "pipe", ""⟩, ⟨.undo, ""⟩] →
      (edited (initialEditorState (some metered)) before).LabClosed := by
    refine (edited_labClosed_iff metered_closed (metered_admitted _ (by simp))).mpr ?_
    refine recorded_concat_iff.mpr ⟨recorded_concat_iff.mpr ⟨recorded_nil, ?_⟩, fun _ _ => trivial⟩
    intro current held
    obtain rfl : metered = current := Option.some.inj held
    simp [LabDefinition.Cascades, metered]
  exact ⟨closed _ ⟨[⟨.undo, ""⟩], rfl⟩, closed _ List.prefix_rfl⟩

/-- Deleting a tank leaves the sensor on its pipe behind. -/
theorem metered_deleteAsset_dangles : ∃ (state : EditorHistoryState ℚ) (dispatches : List (Dispatch ℚ)),
    state.Closed ∧ Admitted state dispatches ∧ ¬ (edited state dispatches).LabClosed := by
  refine ⟨initialEditorState (some metered), [⟨.deleteAsset "left", ""⟩], metered_closed,
    metered_admitted _ (by simp), fun closed => ?_⟩
  obtain ⟨pipe, mem, -⟩ := (closed _ rfl).sensors ⟨⟨.FLOW, .pipe "pipe", 0, none, none⟩, "meter"⟩
    List.mem_cons_self
  simp [metered] at mem

end IndustrialReliability.Editor
