import IndustrialReliability.Lab.Renaming
import IndustrialReliability.Lab.Readings

/-!
`clone_lab_definition`: a lab with fresh ids.

Assets and pipes share one map of ids, filled before anything is copied; a sensor gets an
id of its own. Every part is built by its class again, so its validators run on the values
that the part of the template has.
-/

namespace IndustrialReliability

open LabNumber (between pyAbs)

variable {R : Type} [LabNumber R]

/-! ### Validators -/

/-- `validate_position`. -/
def validatePosition (position : R × R × R) : Except String (R × R × R) :=
  let (x, y, z) := position
  if !(LabNumber.isFinite x && LabNumber.isFinite y && LabNumber.isFinite z) then
    .error "position_m coordinates must be finite"
  else if !between (-12) x 12 then
    .error ("position X " ++ LabNumber.repr x ++ " out of range [-12, 12]")
  else if num 1e-6 < pyAbs y then .error ("position Y must be 0, got " ++ LabNumber.repr y)
  else if !between (-8) z 8 then
    .error ("position Z " ++ LabNumber.repr z ++ " out of range [-8, 8]")
  else .ok (x, num 0, z)

/-- `validate_rotation`. -/
def validateRotation (rotation : R) : Except String R :=
  if LabNumber.isFinite rotation then .ok rotation else .error "rotation_y_rad must be finite"

/-- The class `Asset` on field values. -/
def Asset.construct (assetId : UUID) (type : AssetType) (positionM : R × R × R)
    (rotationYRad : R) (parameters : Parameters R) : Except String (Asset R) := do
  let positionM ← validatePosition positionM
  let rotationYRad ← validateRotation rotationYRad
  match valid : validateParameters type parameters with
  | .error message => .error message
  | .ok () => return ⟨assetId, type, positionM, rotationYRad, parameters, valid⟩

/-- `validate_waypoints`. -/
def validateWaypoints (waypoints : List (R × R × R)) : Except String (List (R × R × R)) :=
  if 16 < waypoints.length then
    .error ("Maximum 16 waypoints allowed, got " ++ toString waypoints.length)
  else if waypoints.all fun (x, y, z) =>
      LabNumber.isFinite x && LabNumber.isFinite y && LabNumber.isFinite z then .ok waypoints
  else .error "Each waypoint must be 3 finite floats"

/-- The class `Pipe` on field values. -/
def Pipe.construct (pipeId : UUID) (fromPort toPort : PortRef) (conductanceKgSPa : R)
    (waypointsM : List (R × R × R)) : Except String (Pipe R) :=
  if range : between 1e-12 conductanceKgSPa 1e-6 = true then
    if LabNumber.isFinite conductanceKgSPa then do
      let waypointsM ← validateWaypoints waypointsM
      if differ : fromPort ≠ toPort then
        return ⟨pipeId, fromPort, toPort, conductanceKgSPa, waypointsM, range, differ⟩
      else .error ("Pipe cannot connect a port to itself: " ++ fromPort.assetId.str ++ ":" ++
        fromPort.port.str)
    else .error "conductance_kg_s_pa must be finite"
  else if num 1e-6 < conductanceKgSPa then .error "Input should be less than or equal to 1e-06"
  else if conductanceKgSPa < num 1e-12 then
    .error "Input should be greater than or equal to 1e-12"
  else .error "conductance_kg_s_pa must be finite"

/-- `validate_noise`. -/
def validateNoise (noise : R) : Except String R :=
  if !LabNumber.isFinite noise || noise < num 0 then
    .error "noise_std must be finite non-negative"
  else .ok noise

/-- The noise a kind of sensor may have, and the hysteresis of its alarms. -/
def noiseRule : SensorTarget → String × String × ℚ × ℚ
  | .pressure _ => ("PRESSURE", "[0, 10000]", 10000.0, 10000.0)
  | .flow _ => ("FLOW", "[0, 0.01]", 0.01, 0.001)

/-- `validate_sensor_rules`. -/
def validateSensorRules (target : SensorTarget) (noiseStd : R) (alarmLow alarmHigh : Option R) :
    Except String Unit :=
  let (kind, range, most, hysteresis) := noiseRule target
  if !between 0 noiseStd most then
    .error (kind ++ " noise_std " ++ LabNumber.repr noiseStd ++ " out of range " ++ range)
  else if alarmLow.any fun low => !LabNumber.isFinite low then .error "alarm_low must be finite"
  else if alarmHigh.any fun high => !LabNumber.isFinite high then .error "alarm_high must be finite"
  else match alarmLow, alarmHigh with
    | some low, some high =>
        if high - num hysteresis ≤ low + num hysteresis then
          .error ("Alarm bounds invalid: low + hysteresis (" ++
            LabNumber.repr (low + num hysteresis) ++ ") must be < high - hysteresis (" ++
            LabNumber.repr (high - num hysteresis) ++ ")")
        else .ok ()
    | _, _ => .ok ()

/-- The class `Sensor` on field values. -/
def Sensor.construct (sensorId : UUID) (target : SensorTarget) (noiseStd : R)
    (alarmLow alarmHigh : Option R) : Except String (Sensor R) := do
  let noiseStd ← validateNoise noiseStd
  validateSensorRules target noiseStd alarmLow alarmHigh
  return ⟨sensorId, target, noiseStd, alarmLow, alarmHigh⟩

/-- What a `LabDefinition` accepts for its name. -/
def validateName (name : String) : Except String String :=
  if name.length < 1 then .error "String should have at least 1 character"
  else if 80 < name.length then .error "String should have at most 80 characters"
  else .ok name

/-! ### The map of ids -/

/-- `id_map`, and how many `uuid4()` have been drawn. -/
structure IdMap where
  map : Lib.Table UUID UUID
  drawn : Nat

namespace IdMap

def empty : IdMap := ⟨.empty, 0⟩

/-- `get_new_id`; `fresh` are the values of `uuid4()`. -/
def getNewId (fresh : Nat → UUID) (ids : IdMap) (old : UUID) : IdMap :=
  match ids.map.get? old with
  | some _ => ids
  | none => ⟨ids.map.set old (fresh ids.drawn), ids.drawn + 1⟩

end IdMap

inductive CloneError where
  /-- `KeyError`. -/
  | missingId (id : UUID)
  | validation (message : String)
deriving DecidableEq, Repr

/-- `id_map[old]`. -/
def IdMap.lookup (ids : IdMap) (old : UUID) : Except CloneError UUID :=
  match ids.map.get? old with
  | some new => .ok new
  | none => .error (.missingId old)

/-- What a class refuses. -/
def validating {α : Type} : Except String α → Except CloneError α
  | .ok a => .ok a
  | .error message => .error (.validation message)

/-! ### The clone -/

/-- The map for all assets and pipes. -/
def idMapOf (fresh : Nat → UUID) (template : LabDefinition R) : IdMap :=
  (template.assets.map (·.assetId) ++ template.pipes.map (·.pipeId)).foldl
    (IdMap.getNewId fresh) .empty

def clonePort (ids : IdMap) (ref : PortRef) : Except CloneError PortRef := do
  let assetId ← ids.lookup ref.assetId
  return ⟨assetId, ref.port⟩

def cloneAsset (ids : IdMap) (asset : Asset R) : Except CloneError (Asset R) := do
  let assetId ← ids.lookup asset.assetId
  validating (Asset.construct assetId asset.type asset.positionM asset.rotationYRad asset.parameters)

def clonePipe (ids : IdMap) (pipe : Pipe R) : Except CloneError (Pipe R) := do
  let pipeId ← ids.lookup pipe.pipeId
  let fromPort ← clonePort ids pipe.fromPort
  let toPort ← clonePort ids pipe.toPort
  validating (Pipe.construct pipeId fromPort toPort pipe.conductanceKgSPa pipe.waypointsM)

def cloneTarget (ids : IdMap) : SensorTarget → Except CloneError SensorTarget
  | .pressure port => do
      let port ← clonePort ids port
      return .pressure port
  | .flow pipe => do
      let pipe ← ids.lookup pipe
      return .flow pipe

/-- `new` is the `uuid4()` drawn for the sensor. -/
def cloneSensor (ids : IdMap) (new : UUID) (sensor : Sensor R) : Except CloneError (Sensor R) := do
  let target ← cloneTarget ids sensor.target
  validating (Sensor.construct new target sensor.noiseStd sensor.alarmLow sensor.alarmHigh)

def cloneLabDefinition (fresh : Nat → UUID) (template : LabDefinition R) (newLabId : UUID)
    (newName : String) : Except CloneError (LabDefinition R) := do
  let ids := idMapOf fresh template
  let assets ← template.assets.mapM (cloneAsset ids)
  let pipes ← template.pipes.mapM (clonePipe ids)
  let sensors ← (template.sensors.zipIdx ids.drawn).mapM fun (sensor, n) =>
    cloneSensor ids (fresh n) sensor
  let name ← validating (validateName newName)
  return {
    schemaVersion := template.schemaVersion
    labId := newLabId
    revision := 1
    name
    assets
    pipes
    sensors
    sceneRevision := template.sceneRevision
    revision_pos := Nat.one_pos }

/-! ### Building a part again -/

section Construct

variable {asset : Asset R} {pipe : Pipe R} {sensor : Sensor R}

/-- What the class `Asset` makes of field values. -/
theorem Asset.construct_eq_ok_iff {assetId : UUID} {type : AssetType} {position : R × R × R}
    {rotation : R} {parameters : Parameters R} :
    Asset.construct assetId type position rotation parameters = .ok asset ↔
      validatePosition position = .ok asset.positionM ∧
        validateRotation rotation = .ok asset.rotationYRad ∧
        asset.assetId = assetId ∧ asset.type = type ∧ asset.parameters = parameters := by
  unfold construct
  rw [Lib.bind_eq_ok_iff]
  constructor
  · rintro ⟨position', placed, made⟩
    obtain ⟨rotation', turned, made⟩ := Lib.bind_eq_ok_iff.mp made
    split at made
    · cases made
    · cases made
      exact ⟨placed, turned, rfl, rfl, rfl⟩
  · rintro ⟨placed, turned, rfl, rfl, rfl⟩
    refine ⟨_, placed, Lib.bind_eq_ok_iff.mpr ⟨_, turned, ?_⟩⟩
    split
    · rename_i message refused
      rw [asset.valid] at refused
      cases refused
    · rfl

theorem Pipe.construct_eq_ok_iff {pipeId : UUID} {fromPort toPort : PortRef} {conductance : R}
    {waypoints : List (R × R × R)} :
    Pipe.construct pipeId fromPort toPort conductance waypoints = .ok pipe ↔
      LabNumber.isFinite conductance = true ∧ validateWaypoints waypoints = .ok pipe.waypointsM ∧
        pipe.pipeId = pipeId ∧ pipe.fromPort = fromPort ∧ pipe.toPort = toPort ∧
        pipe.conductanceKgSPa = conductance := by
  unfold construct
  constructor
  · intro made
    split at made
    · split at made
      · rename_i finite
        obtain ⟨waypoints', drawn, made⟩ := Lib.bind_eq_ok_iff.mp made
        split at made
        · cases made
          exact ⟨finite, drawn, rfl, rfl, rfl, rfl⟩
        · cases made
      · cases made
    · split at made
      · cases made
      · split at made <;> cases made
  · rintro ⟨finite, drawn, rfl, rfl, rfl, rfl⟩
    rw [dif_pos pipe.conductance_range, if_pos finite, drawn]
    exact dif_pos pipe.ends_differ

theorem Sensor.construct_eq_ok_iff {sensorId : UUID} {target : SensorTarget} {noise : R}
    {low high : Option R} :
    Sensor.construct sensorId target noise low high = .ok sensor ↔
      validateNoise noise = .ok sensor.noiseStd ∧
        validateSensorRules target sensor.noiseStd low high = .ok () ∧
        sensor = ⟨sensorId, target, sensor.noiseStd, low, high⟩ := by
  unfold construct
  rw [Lib.bind_eq_ok_iff]
  constructor
  · rintro ⟨noise', quiet, made⟩
    obtain ⟨ruled, made⟩ := Lib.unit_bind_eq_ok_iff.mp made
    cases made
    exact ⟨quiet, ruled, rfl⟩
  · rintro ⟨quiet, ruled, same⟩
    refine ⟨_, quiet, Lib.unit_bind_eq_ok_iff.mpr ⟨ruled, ?_⟩⟩
    rw [same]
    rfl

end Construct

/-- The classes take the parts of a lab as they are: they have built them. -/
structure LabDefinition.Constructed (definition : LabDefinition R) : Prop where
  assets : ∀ asset ∈ definition.assets, Asset.construct asset.assetId asset.type asset.positionM
    asset.rotationYRad asset.parameters = .ok asset
  pipes : ∀ pipe ∈ definition.pipes, Pipe.construct pipe.pipeId pipe.fromPort pipe.toPort
    pipe.conductanceKgSPa pipe.waypointsM = .ok pipe
  sensors : ∀ sensor ∈ definition.sensors, Sensor.construct sensor.sensorId sensor.target
    sensor.noiseStd sensor.alarmLow sensor.alarmHigh = .ok sensor

/-! What a class has built it takes as it is: only the height of a position is changed, to
the zero that passes again. -/

theorem Asset.construct_again {K : Type} [ExactNumber K] {assetId : UUID} {type : AssetType}
    {position : K × K × K} {rotation : K} {parameters : Parameters K} {asset : Asset K}
    (made : Asset.construct assetId type position rotation parameters = .ok asset) :
    Asset.construct asset.assetId asset.type asset.positionM asset.rotationYRad asset.parameters =
      .ok asset := by
  obtain ⟨placed, turned, -⟩ := Asset.construct_eq_ok_iff.mp made
  refine Asset.construct_eq_ok_iff.mpr ⟨?_, ?_, rfl, rfl, rfl⟩
  · obtain ⟨x, y, z⟩ := position
    unfold validatePosition at placed
    dsimp only at placed
    split at placed
    · cases placed
    · split at placed
      · cases placed
      · rename_i inX
        split at placed
        · cases placed
        · split at placed
          · cases placed
          · rename_i inZ
            have kept := Except.ok.inj placed
            have flat : ¬ (num 1e-6 : K) < pyAbs (num 0) := by
              rw [LabNumber.pyAbs_eq, LabNumber.num_eq, LabNumber.num_eq]
              norm_num
            rw [← kept]
            unfold validatePosition
            dsimp only
            rw [if_neg (by simp [LabNumber.isFinite]), if_neg inX, if_neg flat, if_neg inZ]
  · unfold validateRotation at turned
    split at turned
    · rename_i finite
      cases turned
      exact if_pos finite
    · cases turned

theorem Pipe.construct_again {pipeId : UUID} {fromPort toPort : PortRef} {conductance : R}
    {waypoints : List (R × R × R)} {pipe : Pipe R}
    (made : Pipe.construct pipeId fromPort toPort conductance waypoints = .ok pipe) :
    Pipe.construct pipe.pipeId pipe.fromPort pipe.toPort pipe.conductanceKgSPa pipe.waypointsM =
      .ok pipe := by
  obtain ⟨finite, drawn, rfl, rfl, rfl, rfl⟩ := Pipe.construct_eq_ok_iff.mp made
  have same : waypoints = pipe.waypointsM := by
    unfold validateWaypoints at drawn
    split at drawn
    · cases drawn
    · split at drawn
      · exact Except.ok.inj drawn
      · cases drawn
  rwa [same] at made

theorem Sensor.construct_again {sensorId : UUID} {target : SensorTarget} {noise : R}
    {low high : Option R} {sensor : Sensor R}
    (made : Sensor.construct sensorId target noise low high = .ok sensor) :
    Sensor.construct sensor.sensorId sensor.target sensor.noiseStd sensor.alarmLow
      sensor.alarmHigh = .ok sensor := by
  obtain ⟨quiet, ruled, same⟩ := Sensor.construct_eq_ok_iff.mp made
  have kept : noise = sensor.noiseStd := by
    unfold validateNoise at quiet
    split at quiet
    · cases quiet
    · exact Except.ok.inj quiet
  rw [same]
  rwa [kept, same] at made

/-! ### The map of ids -/

namespace IdMap

variable {fresh : Nat → UUID} {ids : IdMap}

/-- Every id in the map was drawn, and for one id only. -/
structure Sound (fresh : Nat → UUID) (ids : IdMap) : Prop where
  drawn : ∀ old new, ids.map.get? old = some new → ∃ n < ids.drawn, new = fresh n
  apart : ∀ old old' new, ids.map.get? old = some new → ids.map.get? old' = some new → old = old'

theorem getNewId_spec (injective : Function.Injective fresh) (sound : ids.Sound fresh) (old : UUID) :
    (getNewId fresh ids old).Sound fresh ∧ ((getNewId fresh ids old).map.get? old).isSome ∧
      ∀ other, (ids.map.get? other).isSome → ((getNewId fresh ids old).map.get? other).isSome := by
  unfold getNewId
  cases known : ids.map.get? old with
  | some new => exact ⟨sound, by simp [known], fun _ there => there⟩
  | none =>
      dsimp only
      have unused (other new : UUID) (held : ids.map.get? other = some new) :
          new ≠ fresh ids.drawn := by
        obtain ⟨n, before, rfl⟩ := sound.drawn other new held
        exact fun same => before.ne (injective same)
      refine ⟨⟨fun other new held => ?_, fun other other' new held held' => ?_⟩,
        by rw [Lib.Table.get?_set_self]; rfl, fun other there => ?_⟩
      · by_cases here : other = old
        · subst here
          rw [Lib.Table.get?_set_self] at held
          exact ⟨ids.drawn, Nat.lt_succ_self _, (Option.some.inj held).symm⟩
        · rw [Lib.Table.get?_set_ne here] at held
          obtain ⟨n, before, same⟩ := sound.drawn other new held
          exact ⟨n, Nat.lt_succ_of_lt before, same⟩
      · by_cases here : other = old
        · subst here
          by_cases here' : other' = other
          · exact here'.symm
          · rw [Lib.Table.get?_set_self] at held
            rw [Lib.Table.get?_set_ne here'] at held'
            exact absurd (Option.some.inj held).symm (unused other' new held')
        · rw [Lib.Table.get?_set_ne here] at held
          by_cases here' : other' = old
          · subst here'
            rw [Lib.Table.get?_set_self] at held'
            exact absurd (Option.some.inj held').symm (unused other new held)
          · rw [Lib.Table.get?_set_ne here'] at held'
            exact sound.apart other other' new held held'
      · by_cases here : other = old
        · subst here
          rw [Lib.Table.get?_set_self]
          rfl
        · rwa [Lib.Table.get?_set_ne here]

/-- After the map is filled every id given has a new one. -/
theorem foldl_getNewId (injective : Function.Injective fresh) (sound : ids.Sound fresh)
    (olds : List UUID) : (olds.foldl (getNewId fresh) ids).Sound fresh ∧
      ∀ old, old ∈ olds ∨ (ids.map.get? old).isSome →
        ((olds.foldl (getNewId fresh) ids).map.get? old).isSome := by
  induction olds generalizing ids with
  | nil =>
      refine ⟨sound, fun old known => ?_⟩
      rcases known with mem | known
      · cases mem
      · exact known
  | cons first olds ih =>
      obtain ⟨next, here, kept⟩ := getNewId_spec injective sound first
      obtain ⟨last, there⟩ := ih next
      refine ⟨last, fun old known => there old ?_⟩
      rcases known with mem | known
      · rcases List.mem_cons.mp mem with rfl | later
        · exact .inr here
        · exact .inl later
      · exact .inr (kept old known)

end IdMap

/-! ### The clone is the template renamed -/

section Clone

variable {fresh : Nat → UUID} {template : LabDefinition R} {map : IdMap} {ids : NewIds}

/-- The new ids are those of the map, and those drawn for the sensors. -/
structure Assigns (fresh : Nat → UUID) (template : LabDefinition R) (map : IdMap)
    (ids : NewIds) : Prop where
  assets : ∀ asset ∈ template.assets, map.lookup asset.assetId = .ok (ids.part asset.assetId)
  pipes : ∀ pipe ∈ template.pipes, map.lookup pipe.pipeId = .ok (ids.part pipe.pipeId)
  sensors : ∀ pair ∈ template.sensors.zipIdx map.drawn,
    fresh pair.2 = ids.sensor pair.1.sensorId

/-- The numbers of the sensors tell them apart. -/
theorem exists_sensorIds (injective : Function.Injective fresh)
    (nodup : (template.sensors.map (·.sensorId)).Nodup) (start : Nat) :
    ∃ f : UUID → UUID, Function.Injective f ∧
      ∀ pair ∈ template.sensors.zipIdx start, fresh pair.2 = f pair.1.sensorId := by
  let rows := (template.sensors.zipIdx start).map fun pair => (pair.1.sensorId, fresh pair.2)
  have keys : (rows.map Prod.fst).Nodup := by
    have ids : rows.map Prod.fst =
        ((template.sensors.zipIdx start).map Prod.fst).map (·.sensorId) := by
      rw [List.map_map, List.map_map]
      rfl
    rw [ids, List.zipIdx_map_fst]
    exact nodup
  have held (id new : UUID) : (tableOf rows).get? id = some new ↔ (id, new) ∈ rows := by
    rw [get?_tableOf keys, Lib.Table.lookup_eq_some_iff keys]
  obtain ⟨f, apart, agrees⟩ := (tableOf rows).exists_injective fun id id' new first second => by
    obtain ⟨⟨sensor, n⟩, mem, same⟩ := List.mem_map.mp ((held _ _).mp first)
    obtain ⟨⟨sensor', n'⟩, mem', same'⟩ := List.mem_map.mp ((held _ _).mp second)
    obtain ⟨rfl, rfl⟩ := Prod.mk.inj same
    obtain ⟨rfl, drawn⟩ := Prod.mk.inj same'
    obtain rfl := injective drawn
    have here := (List.mk_mem_zipIdx_iff_le_and_getElem?_sub.mp mem).2
    have there := (List.mk_mem_zipIdx_iff_le_and_getElem?_sub.mp mem').2
    exact congrArg Sensor.sensorId (Option.some.inj (here.symm.trans there))
  exact ⟨f, apart, fun pair mem => (agrees _ _ ((held _ _).mpr (List.mem_map_of_mem mem))).symm⟩

theorem exists_assigns (injective : Function.Injective fresh)
    (nodup : (template.sensors.map (·.sensorId)).Nodup) :
    ∃ ids, Assigns fresh template (idMapOf fresh template) ids := by
  have empty : IdMap.empty.Sound fresh := ⟨nofun, nofun⟩
  obtain ⟨sound, filled⟩ := IdMap.foldl_getNewId injective empty
    (template.assets.map (·.assetId) ++ template.pipes.map (·.pipeId))
  obtain ⟨part, apart, agrees⟩ := (idMapOf fresh template).map.exists_injective sound.apart
  obtain ⟨sensor, apartSensors, numbered⟩ := exists_sensorIds injective nodup
    (idMapOf fresh template).drawn
  have known (old : UUID)
      (mem : old ∈ template.assets.map (·.assetId) ++ template.pipes.map (·.pipeId)) :
      (idMapOf fresh template).lookup old = .ok (part old) := by
    obtain ⟨new, held⟩ := Option.isSome_iff_exists.mp (filled old (.inl mem))
    unfold IdMap.lookup idMapOf
    rw [held, agrees old new held]
  exact ⟨⟨part, sensor, apart, apartSensors⟩,
    fun asset mem => known _ (List.mem_append_left _ (List.mem_map_of_mem mem)),
    fun pipe mem => known _ (List.mem_append_right _ (List.mem_map_of_mem mem)), numbered⟩

theorem clonePort_eq (assigns : Assigns fresh template map ids) {ref : PortRef}
    (has : HasPort template.assets ref) : clonePort map ref = .ok (ref.rename ids) := by
  obtain ⟨asset, mem, id, -⟩ := has
  have found := assigns.assets asset mem
  rw [id] at found
  exact Lib.bind_eq_ok_iff.mpr ⟨_, found, rfl⟩

theorem cloneAsset_eq (assigns : Assigns fresh template map ids)
    (constructed : template.Constructed) {asset : Asset R} (mem : asset ∈ template.assets) :
    cloneAsset map asset = .ok (asset.rename ids) := by
  obtain ⟨placed, turned, -⟩ := Asset.construct_eq_ok_iff.mp (constructed.assets asset mem)
  have built : Asset.construct (ids.part asset.assetId) asset.type asset.positionM
      asset.rotationYRad asset.parameters = .ok (asset.rename ids) :=
    Asset.construct_eq_ok_iff.mpr ⟨placed, turned, rfl, rfl, rfl⟩
  refine Lib.bind_eq_ok_iff.mpr ⟨_, assigns.assets asset mem, ?_⟩
  rw [built]
  rfl

theorem clonePipe_eq (assigns : Assigns fresh template map ids)
    (constructed : template.Constructed) (eligible : RunEligible template) {pipe : Pipe R}
    (mem : pipe ∈ template.pipes) : clonePipe map pipe = .ok (pipe.rename ids) := by
  obtain ⟨finite, drawn, -⟩ := Pipe.construct_eq_ok_iff.mp (constructed.pipes pipe mem)
  obtain ⟨source, sink⟩ := eligible.pipeEnds pipe mem
  have built : Pipe.construct (ids.part pipe.pipeId) (pipe.fromPort.rename ids)
      (pipe.toPort.rename ids) pipe.conductanceKgSPa pipe.waypointsM = .ok (pipe.rename ids) :=
    Pipe.construct_eq_ok_iff.mpr ⟨finite, drawn, rfl, rfl, rfl, rfl⟩
  refine Lib.bind_eq_ok_iff.mpr ⟨_, assigns.pipes pipe mem, Lib.bind_eq_ok_iff.mpr
    ⟨_, clonePort_eq assigns source, Lib.bind_eq_ok_iff.mpr ⟨_, clonePort_eq assigns sink, ?_⟩⟩⟩
  rw [built]
  rfl

theorem cloneTarget_eq (assigns : Assigns fresh template map ids)
    (eligible : RunEligible template) {sensor : Sensor R} (mem : sensor ∈ template.sensors) :
    cloneTarget map sensor.target = .ok (sensor.target.rename ids) := by
  cases target : sensor.target with
  | pressure port =>
      exact Lib.bind_eq_ok_iff.mpr
        ⟨_, clonePort_eq assigns (eligible.pressures sensor mem port target), rfl⟩
  | flow pipe =>
      obtain ⟨other, there, rfl⟩ := List.mem_map.mp (eligible.flows sensor mem pipe target)
      exact Lib.bind_eq_ok_iff.mpr ⟨_, assigns.pipes other there, rfl⟩

/-- A renamed target is of the same kind. -/
theorem validateSensorRules_rename (ids : NewIds) (target : SensorTarget) (noise : R)
    (low high : Option R) : validateSensorRules (target.rename ids) noise low high =
      validateSensorRules target noise low high := by
  cases target <;> rfl

theorem cloneSensor_eq (assigns : Assigns fresh template map ids)
    (constructed : template.Constructed) (eligible : RunEligible template) {sensor : Sensor R}
    {n : Nat} (mem : (sensor, n) ∈ template.sensors.zipIdx map.drawn) :
    cloneSensor map (fresh n) sensor = .ok (sensor.rename ids) := by
  have number : fresh n = ids.sensor sensor.sensorId := assigns.sensors _ mem
  have mem := List.fst_mem_of_mem_zipIdx mem
  obtain ⟨quiet, ruled, -⟩ := Sensor.construct_eq_ok_iff.mp (constructed.sensors sensor mem)
  rw [← validateSensorRules_rename ids] at ruled
  have built : Sensor.construct (fresh n) (sensor.target.rename ids) sensor.noiseStd
      sensor.alarmLow sensor.alarmHigh = .ok (sensor.rename ids) :=
    Sensor.construct_eq_ok_iff.mpr ⟨quiet, ruled, by rw [number]; rfl⟩
  refine Lib.bind_eq_ok_iff.mpr ⟨_, cloneTarget_eq assigns eligible mem, ?_⟩
  rw [built]
  rfl

/-- The lab under new ids and a new name, at its first revision. -/
def LabDefinition.renamedAs (definition : LabDefinition R) (ids : NewIds) (labId : UUID)
    (name : String) : LabDefinition R :=
  { definition.rename ids with labId, revision := 1, name, revision_pos := Nat.one_pos }

/-- The clone of an eligible lab is the lab with new ids. -/
theorem cloneLabDefinition_eq (injective : Function.Injective fresh)
    (constructed : template.Constructed) (eligible : RunEligible template) (newLabId : UUID)
    {newName : String} (named : 1 ≤ newName.length) (short : newName.length ≤ 80) :
    ∃ ids, Assigns fresh template (idMapOf fresh template) ids ∧
      cloneLabDefinition fresh template newLabId newName =
        .ok (template.renamedAs ids newLabId newName) := by
  obtain ⟨ids, assigns⟩ := exists_assigns injective eligible.sensorIds
  have assets : template.assets.mapM (cloneAsset (idMapOf fresh template)) =
      .ok (template.assets.map (Asset.rename ids)) :=
    Lib.mapM_eq_ok_iff_forall₂.mpr (List.forall₂_map_right_iff.mpr
      (List.forall₂_same.mpr fun _ mem => cloneAsset_eq assigns constructed mem))
  have pipes : template.pipes.mapM (clonePipe (idMapOf fresh template)) =
      .ok (template.pipes.map (Pipe.rename ids)) :=
    Lib.mapM_eq_ok_iff_forall₂.mpr (List.forall₂_map_right_iff.mpr
      (List.forall₂_same.mpr fun _ mem => clonePipe_eq assigns constructed eligible mem))
  have sensors : (template.sensors.zipIdx (idMapOf fresh template).drawn).mapM
      (fun (sensor, n) => cloneSensor (idMapOf fresh template) (fresh n) sensor) =
      .ok (template.sensors.map (Sensor.rename ids)) := by
    have renamed : template.sensors.map (Sensor.rename ids) =
        (template.sensors.zipIdx (idMapOf fresh template).drawn).map fun pair =>
          pair.1.rename ids := by
      rw [← List.zipIdx_map_fst (idMapOf fresh template).drawn template.sensors, List.map_map,
        List.zipIdx_map_fst]
      rfl
    rw [renamed]
    exact Lib.mapM_eq_ok_iff_forall₂.mpr (List.forall₂_map_right_iff.mpr
      (List.forall₂_same.mpr fun _ mem => cloneSensor_eq assigns constructed eligible mem))
  have name : validating (validateName newName) = .ok newName := by
    unfold validateName
    rw [if_neg (by omega), if_neg (by omega)]
    rfl
  exact ⟨ids, assigns, Lib.bind_eq_ok_iff.mpr ⟨_, assets, Lib.bind_eq_ok_iff.mpr ⟨_, pipes,
    Lib.bind_eq_ok_iff.mpr ⟨_, sensors, Lib.bind_eq_ok_iff.mpr ⟨_, name, rfl⟩⟩⟩⟩⟩

theorem runEligible_renamedAs [Sha256Digest] (ids : NewIds) (labId : UUID) (name : String)
    (passed : (validateLab template).runEligible = true) :
    (validateLab (template.renamedAs ids labId name)).runEligible = true :=
  List.isEmpty_iff.mpr ((labErrors_rename ids template).mpr (List.isEmpty_iff.mp passed))

end Clone

/-- The clone of a lab that may run is the lab with the new ids drawn for it, used alike by all
references to a part. It may run as well, and compiles to the same network. -/
theorem clone_keeps_network [Sha256Digest] :
    (∀ (R : Type) [LabNumber R] (template : LabDefinition R) (fresh : Nat → UUID)
      (newLabId : UUID) (newName : String), (validateLab template).runEligible = true →
        template.Constructed → Function.Injective fresh → 1 ≤ newName.length →
          newName.length ≤ 80 → ∃ clone ids,
            cloneLabDefinition fresh template newLabId newName = .ok clone ∧
              clone = template.renamedAs ids newLabId newName ∧
              Assigns fresh template (idMapOf fresh template) ids ∧
              (validateLab clone).runEligible = true ∧
              ∀ dt : R, ∃ network network' nodes edges, compileLab template dt = .ok network ∧
                compileLab clone dt = .ok network' ∧
                SameNetwork ids nodes edges network network') ∧
    ∀ (K : Type) [ExactNumber K] (definition definition' : LabDefinition K) (dt : K)
      (network network' : CompiledNetwork K) (ids : NewIds) (nodes edges : Equiv.Perm Nat),
        compileLab definition dt = .ok network → compileLab definition' dt = .ok network' →
          SameNetwork ids nodes edges network network' → ∀ a b,
            network'.baseLaplacian (nodes a) (nodes b) = network.baseLaplacian a b := by
  refine ⟨fun R _ template fresh newLabId newName passed constructed injective named short => ?_,
    fun K _ definition definition' dt network network' ids nodes edges compiled compiled' same =>
      same.baseLaplacian ids compiled compiled'⟩
  have eligible := runEligible_of_validateLab passed
  obtain ⟨ids, assigns, cloned⟩ :=
    cloneLabDefinition_eq injective constructed eligible newLabId named short
  have passed' := runEligible_renamedAs ids newLabId newName passed
  refine ⟨_, ids, cloned, rfl, assigns, passed', fun dt => ?_⟩
  have renamed : (validateLab (template.rename ids)).runEligible = true := passed'
  have eligible' := runEligible_of_validateLab renamed
  obtain ⟨network, compiled⟩ := compileLab_ok eligible dt
  obtain ⟨network', compiled'⟩ := compileLab_ok eligible' dt
  obtain ⟨nodes, edges, same⟩ := sameNetwork_rename ids eligible eligible' compiled compiled'
  exact ⟨network, network', nodes, edges, compiled, compiled', same⟩

theorem loopLab_constructed : loopLab.Constructed := by
  refine ⟨fun asset mem => ?_, fun pipe mem => ?_, fun sensor mem => ?_⟩
  · rcases List.mem_pair.mp mem with rfl | rfl
    · exact Asset.construct_eq_ok_iff.mpr ⟨by decide +kernel, rfl, rfl, rfl, rfl⟩
    · exact Asset.construct_eq_ok_iff.mpr ⟨by decide +kernel, rfl, rfl, rfl, rfl⟩
  · rcases List.mem_pair.mp mem with rfl | rfl
    · exact Pipe.construct_eq_ok_iff.mpr ⟨rfl, rfl, rfl, rfl, rfl, rfl⟩
    · exact Pipe.construct_eq_ok_iff.mpr ⟨rfl, rfl, rfl, rfl, rfl, rfl⟩
  · rcases List.mem_pair.mp mem with rfl | rfl
    · exact Sensor.construct_eq_ok_iff.mpr ⟨by decide +kernel, by decide +kernel, rfl⟩
    · exact Sensor.construct_eq_ok_iff.mpr ⟨by decide +kernel, by decide +kernel, rfl⟩

/-- The ids of the clone sort the other way. -/
def descendingIds (n : Nat) : UUID := if n < 1000 then 1000 - n else n + 1

theorem loopLab_clone :
    letI := knownSha256 []
    ∃ clone ids, cloneLabDefinition descendingIds loopLab 2 "clone" = .ok clone ∧
      clone = loopLab.renamedAs ids 2 "clone" ∧
      Assigns descendingIds loopLab (idMapOf descendingIds loopLab) ids ∧
      (validateLab clone).runEligible = true ∧
      ∃ network network' nodes edges, compileLab loopLab (1 / 20) = .ok network ∧
        compileLab clone (1 / 20) = .ok network' ∧ SameNetwork ids nodes edges network network' ∧
        ∀ a b, network'.baseLaplacian (nodes a) (nodes b) = network.baseLaplacian a b := by
  let _ := knownSha256 []
  have eligible : (validateLab loopLab).runEligible = true := by decide +kernel
  have injective : Function.Injective descendingIds := by
    intro n m same
    have same : (if n < 1000 then 1000 - n else n + 1) = if m < 1000 then 1000 - m else m + 1 :=
      same
    grind
  obtain ⟨clone, ids, cloned, renamed, assigns, passed, networks⟩ := clone_keeps_network.1 ℚ loopLab
    descendingIds 2 "clone" eligible loopLab_constructed injective (by decide) (by decide)
  obtain ⟨network, network', nodes, edges, compiled, compiled', same⟩ := networks (1 / 20)
  exact ⟨clone, ids, cloned, renamed, assigns, passed, network, network', nodes, edges, compiled,
    compiled', same, clone_keeps_network.2 ℚ loopLab clone (1 / 20) network network' ids nodes
      edges compiled compiled' same⟩

end IndustrialReliability
