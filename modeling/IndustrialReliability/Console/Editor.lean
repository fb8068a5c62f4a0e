import IndustrialReliability.Lab.Contracts

/-!
The lab editor of the operator console.

`editorReducer` keeps the lab that is edited between two stacks of its former and
undone versions. A lab of the editor is a draft: nothing is checked of it until it is
saved, so its parts refer to each other by plain ids, and an id may name nothing.
-/

namespace IndustrialReliability.Editor

/-- The arithmetic of the console. -/
class JsNumber (N : Type) extends Add N, Mul N, Div N, Mod N where
  literal : ℚ → N
  /-- `Math.round`. -/
  round : N → N
  /-- `Math.PI`. -/
  pi : N

open JsNumber (literal)

instance : JsNumber ℚ where
  mod a b := a - b * (if 0 ≤ a / b then (a / b).floor else (a / b).ceil)
  literal q := q
  round a := (a + 1 / 2).floor
  pi := 884279719003555 / 281474976710656

/-! ### A draft -/

structure PortRef where
  assetId : String
  port : PortName
deriving DecidableEq, Repr

structure Asset (N : Type) where
  assetId : String
  type : AssetType
  positionM : N × N × N
  rotationYRad : N
  parameters : Lib.Table String (ParamValue N)

structure Pipe (N : Type) where
  pipeId : String
  fromPort : PortRef
  toPort : PortRef
  conductanceKgSPa : N
  waypointsM : List (N × N × N)

inductive SensorKind where
  | PRESSURE | FLOW
deriving DecidableEq, Repr

/-- `PortRef | string`. -/
inductive SensorTarget where
  | port (ref : PortRef)
  | pipe (id : String)
deriving DecidableEq, Repr

/-- `Omit<Sensor, "sensor_id">`. -/
structure SensorPayload (N : Type) where
  kind : SensorKind
  target : SensorTarget
  noiseStd : N
  alarmLow : Option N
  alarmHigh : Option N

structure Sensor (N : Type) extends SensorPayload N where
  sensorId : String

structure LabDefinition (N : Type) where
  schemaVersion : String
  labId : String
  revision : N
  name : String
  assets : List (Asset N)
  pipes : List (Pipe N)
  sensors : List (Sensor N)
  sceneRevision : String

inductive EditorAction (N : Type) where
  | setLab (payload : LabDefinition N)
  | addAsset (assetType : AssetType) (positionM : N × N × N)
  | moveAsset (assetId : String) (positionM : N × N × N)
  | rotateAsset (assetId : String) (deltaRad : N)
  | updateAssetParams (assetId : String) (parameters : Lib.Table String (ParamValue N))
  | deleteAsset (assetId : String)
  | addPipe (fromPort toPort : PortRef) (conductanceKgSPa : Option N)
  | deletePipe (pipeId : String)
  | addSensor (payload : SensorPayload N)
  | deleteSensor (sensorId : String)
  | arrangeAssets
  | undo
  | redo

structure EditorHistoryState (N : Type) where
  present : Option (LabDefinition N)
  past : List (LabDefinition N)
  future : List (LabDefinition N)

def MAX_HISTORY : Nat := 100

def initialEditorState {N : Type} (lab : Option (LabDefinition N)) : EditorHistoryState N :=
  ⟨lab, [], []⟩

/-! ### The reducer -/

section Reducer

variable {N : Type} [JsNumber N]

def DEFAULT_PARAMETERS_BY_ASSET_TYPE : AssetType → Lib.Table String (ParamValue N)
  | .tank => ⟨[("volume_m3", .number (literal 0.5)), ("initial_pressure_pa", .number (literal 400000.0))],
      by simp⟩
  | .compressor => ⟨[
      ("q_nom_kg_s", .number (literal 0.02)),
      ("p_max_pa", .number (literal 900000.0)),
      ("load", .number (literal 1.0)),
      ("enabled", .flag true),
      ("initial_pressure_pa", .number (literal 400000.0))], by simp⟩
  | .isolationValve | .controlValve => ⟨[
      ("conductance_kg_s_pa", .number (literal 2e-7)),
      ("opening", .number (literal 1.0)),
      ("initial_pressure_pa", .number (literal 400000.0))], by simp⟩
  | .demand => ⟨[
      ("conductance_kg_s_pa", .number (literal 1e-8)),
      ("load_factor", .number (literal 1.0)),
      ("initial_pressure_pa", .number (literal 400000.0))], by simp⟩

/-- With its default step. -/
def snapToGrid (val : N) : N := JsNumber.round (val / literal 0.25) * literal 0.25

/-- The height of an asset is dropped. -/
def snappedPos (positionM : N × N × N) : N × N × N :=
  (snapToGrid positionM.1, literal 0, snapToGrid positionM.2.2)

/-- `assets.map((a) => a.asset_id === assetId ? change(a) : a)`. -/
def LabDefinition.changeAsset (lab : LabDefinition N) (assetId : String) (change : Asset N → Asset N) :
    LabDefinition N :=
  { lab with assets := lab.assets.map fun asset => if asset.assetId = assetId then change asset else asset }

/-- `{ ...parameters, ...given }`. -/
def spread (parameters given : Lib.Table String (ParamValue N)) : Lib.Table String (ParamValue N) :=
  given.rows.foldl (fun merged (key, value) => merged.upsert key value fun _ => value) parameters

/-- A pressure sensor goes with the asset its target names; the target of a flow sensor
is not looked at. -/
def keptWithoutAsset (targetId : String) (sensor : Sensor N) : Bool :=
  match sensor.kind, sensor.target with
  | .PRESSURE, .port ref => ref.assetId ≠ targetId
  | .PRESSURE, .pipe _ => true
  | .FLOW, _ => true

/-- The place of an asset in rows of seven. -/
def arrangedPos (idx : Nat) : N × N × N :=
  let col := idx % 7
  let row := idx / 7
  (snapToGrid (literal (-9.0) + literal col * literal 3.0), literal 0,
    snapToGrid (literal (-5.0) + literal (row % 5 : Nat) * literal 2.5 + literal (row / 5 : Nat) * literal 0.5))

/-- `nextLab`: the lab after an edit; the new element has the id that was drawn for it. -/
def nextLab (randomUUID : String) (current : LabDefinition N) : EditorAction N → Option (LabDefinition N)
  | .addAsset assetType positionM =>
      let newAsset := {
        assetId := randomUUID
        type := assetType
        positionM := snappedPos positionM
        rotationYRad := literal 0
        parameters := DEFAULT_PARAMETERS_BY_ASSET_TYPE assetType }
      some { current with assets := current.assets ++ [newAsset] }
  | .moveAsset assetId positionM =>
      some (current.changeAsset assetId fun asset => { asset with positionM := snappedPos positionM })
  | .rotateAsset assetId deltaRad =>
      some (current.changeAsset assetId fun asset =>
        { asset with rotationYRad := (asset.rotationYRad + deltaRad) % (JsNumber.pi * literal 2) })
  | .updateAssetParams assetId parameters =>
      some (current.changeAsset assetId fun asset =>
        { asset with parameters := spread asset.parameters parameters })
  | .deleteAsset targetId =>
      some { current with
        assets := current.assets.filter fun asset => asset.assetId ≠ targetId
        pipes := current.pipes.filter fun pipe =>
          pipe.fromPort.assetId ≠ targetId ∧ pipe.toPort.assetId ≠ targetId
        sensors := current.sensors.filter (keptWithoutAsset targetId) }
  | .addPipe fromPort toPort conductanceKgSPa =>
      let newPipe := {
        pipeId := randomUUID
        fromPort
        toPort
        conductanceKgSPa := conductanceKgSPa.getD (literal 2e-7)
        waypointsM := [] }
      some { current with pipes := current.pipes ++ [newPipe] }
  | .deletePipe targetPipeId =>
      some { current with
        pipes := current.pipes.filter fun pipe => pipe.pipeId ≠ targetPipeId
        sensors := current.sensors.filter fun sensor =>
          ¬ (sensor.kind = .FLOW ∧ sensor.target = .pipe targetPipeId) }
  | .addSensor payload =>
      some { current with sensors := current.sensors ++ [{ payload with sensorId := randomUUID }] }
  | .deleteSensor sensorId =>
      some { current with sensors := current.sensors.filter fun sensor => sensor.sensorId ≠ sensorId }
  | .arrangeAssets =>
      some { current with
        assets := current.assets.mapIdx fun idx asset => { asset with positionM := arrangedPos idx } }
  | .setLab _ | .undo | .redo => none

/-- `slice(-MAX_HISTORY)`. -/
def latest (labs : List (LabDefinition N)) : List (LabDefinition N) := labs.drop (labs.length - MAX_HISTORY)

def editorReducer (randomUUID : String) (state : EditorHistoryState N) (action : EditorAction N) :
    EditorHistoryState N :=
  match action, state.present with
  | .setLab payload, _ => ⟨some payload, [], []⟩
  | _, none => state
  | .undo, some present =>
      match state.past.getLast? with
      | none => state
      | some previous => {
          present := some previous
          past := state.past.dropLast
          future := (present :: state.future).take MAX_HISTORY }
  | .redo, some present =>
      match state.future with
      | [] => state
      | next :: newFuture => {
          present := some next
          past := latest (state.past ++ [present])
          future := newFuture }
  | edit, some current =>
      match nextLab randomUUID current edit with
      | none => state
      | some next => {
          present := some next
          past := latest (state.past ++ [current])
          future := [] }

/-- An action, and the id that is drawn if it needs one. -/
structure Dispatch (N : Type) where
  action : EditorAction N
  randomUUID : String

/-- The state after a sequence of actions. -/
def edited (state : EditorHistoryState N) (dispatches : List (Dispatch N)) : EditorHistoryState N :=
  dispatches.foldl (fun state dispatch => editorReducer dispatch.randomUUID state dispatch.action) state

end Reducer

end IndustrialReliability.Editor
