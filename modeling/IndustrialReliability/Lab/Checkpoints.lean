import IndustrialReliability.Lab.Sensors

/-!
Engine checkpoints and the state a run starts in.
-/

namespace IndustrialReliability

variable {R : Type} [LabNumber R]

/-- The initial pressure of an asset under each of its ports. -/
def initialPressures (definition : LabDefinition R) : Lib.Table NodeId R :=
  tableOf (definition.assets.flatMap fun asset =>
    (VALID_PORTS_BY_ASSET_TYPE asset.type).map fun port =>
      (.port asset.assetId port, initialPressure asset))

/-- The modes of the compressors as `start_run` writes them. -/
def initialModes (definition : LabDefinition R) : Lib.Table UUID OperatingMode :=
  tableOf ((definition.assets.filter (·.type = .compressor)).map fun asset =>
    (asset.assetId, if asset.parameters.bool "enabled" true then .RUNNING else .OFF))

def initialPhysical (definition : LabDefinition R) : PhysicalState R where
  tick := 0
  pressuresPa := initialPressures definition
  flowsKgS := .empty
  operatingModes := initialModes definition

structure EngineCheckpoint (R : Type) where
  schemaVersion : String
  tick : Nat
  physical : PhysicalState R
  controls : ControlState R
  acceptedScannedSequence : Nat
  pendingCommandIds : List UUID
  definitionDigest : Sha256
  profileDigest : Sha256
  samplingDigest : Sha256

end IndustrialReliability
