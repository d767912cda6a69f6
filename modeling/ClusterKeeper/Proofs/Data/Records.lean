import ClusterKeeper.Proofs.Data.Layout
import ClusterKeeper.Resource.Cluster
import ClusterKeeper.Provider.Types
/-!
The written forms of declarations and of what is exchanged with the provider.

For each record: which of its fields may be absent and what they stand for then, and that what is
written of it is read back. A list of tags that may be absent is not one that is empty: the two are
told apart by the layout wherever they are by the data.
-/

namespace ClusterKeeper

open Layout

theorem KeyMap.eq_empty_of_isEmpty {α : Type} {map : KeyMap α} (h : map.isEmpty = true) :
    map = KeyMap.empty := by
  obtain ⟨entries, ascending⟩ := map
  obtain rfl : entries = [] := List.isEmpty_iff.mp h
  rfl

instance : Laid SecretRef := ⟨.record [required "namespace" String, required "name" String]⟩

instance : LawfulWire SecretRef :=
  .of_record (fun r => [slot "namespace" r.inNamespace, slot "name" r.name])
    rfl (fun _ => rfl) (fun _ => by simp [encode]) (fun _ => rfl) (by decide) (fun _ => by simp)
    fun _ => ⟨_, (Reading.need (by simp) (by simp)).bind fun _ =>
      (Reading.need (by simp) (by simp)).bind fun _ => .pure _, rfl⟩

instance : Laid ScalingBounds := ⟨.record [required "min" UInt32, required "max" UInt32]⟩

instance : Present ScalingBounds := ⟨fun _ => rfl⟩

instance : LawfulWire ScalingBounds :=
  .of_record (fun s => [slot "min" s.min, slot "max" s.max])
    rfl (fun _ => rfl) (fun _ => by simp [encode]) (fun _ => rfl) (by decide) (fun _ => by simp)
    fun _ => ⟨_, (Reading.need (by simp) (by simp)).bind fun _ =>
      (Reading.need (by simp) (by simp)).bind fun _ => .pure _, rfl⟩

instance : Laid PoolShape :=
  ⟨.record [defaulted "nodeCount" PoolShape.defaultNodeCount,
    defaulted "linodeType" PoolShape.defaultInstanceType,
    defaulted "autoscaler" (none : Option ScalingBounds)]⟩

instance : LawfulWire PoolShape :=
  .of_record (fun p => [slot "nodeCount" p.nodeCount, slot "linodeType" p.instanceType,
      slotIfSome "autoscaler" p.scaling])
    rfl (fun _ => rfl) (fun _ => by simp [encode]) (fun _ => rfl) (by decide) (fun _ => by simp)
    fun _ => ⟨_, (Reading.getD (by simp) (by simp)).bind fun _ =>
      (Reading.getD (by simp) (by simp)).bind fun _ =>
      (Reading.optional (by simp) (by simp)).bind fun _ => .pure _, rfl⟩

instance : Laid PoolRecord :=
  ⟨.record [defaulted "id" (none : Option Int64), required "details" PoolShape]⟩

instance : LawfulWire PoolRecord :=
  .of_record (fun p => [slotIfSome "id" p.id, slot "details" p.shape])
    rfl (fun _ => rfl) (fun _ => by simp [encode]) (fun _ => rfl) (by decide) (fun _ => by simp)
    fun _ => ⟨_, (Reading.optional (by simp) (by simp)).bind fun _ =>
      (Reading.need (by simp) (by simp)).bind fun _ => .pure _, rfl⟩

instance : Laid ClusterSpec :=
  ⟨.record [required "region" String, required "tokenSecretRef" SecretRef,
    defaulted "highAvailability" (none : Option Bool),
    required "nodePools" (KeyMap PoolShape), defaulted "kubernetesVersion" (none : Option String),
    defaulted "tags" (none : Option (List String))]⟩

instance : LawfulWire ClusterSpec :=
  .of_record (fun s => [slot "region" s.region, slot "tokenSecretRef" s.tokenSecretRef,
      slotIfSome "highAvailability" s.highAvailability, slot "nodePools" s.nodePools,
      slotIfSome "kubernetesVersion" s.kubernetesVersion, slotIfSome "tags" s.tags])
    rfl (fun _ => rfl) (fun _ => by simp [encode]) (fun _ => rfl) (by decide) (fun _ => by simp)
    fun _ => ⟨_, (Reading.need (by simp) (by simp)).bind fun _ =>
      (Reading.need (by simp) (by simp)).bind fun _ =>
      (Reading.optional (by simp) (by simp)).bind fun _ =>
      (Reading.need (by simp) (by simp)).bind fun _ =>
      (Reading.optional (by simp) (by simp)).bind fun _ =>
      (Reading.optional (by simp) (by simp)).bind fun _ => .pure _, rfl⟩

instance : Laid Phase := ⟨.scalar⟩

instance : LawfulWire Phase where
  decode_encode phase := by cases phase <;> decide
  decode_step h _ := by cases h
  isPlain_encode phase := .text phase.name

instance : Laid ClusterStatus :=
  ⟨.record [defaulted "phase" Phase.unknown, defaulted "clusterID" (none : Option Int64),
    defaulted "nodePoolStatuses" (KeyMap.empty : KeyMap PoolRecord),
    defaulted "failureMessage" (none : Option String)]⟩

instance : LawfulWire ClusterStatus :=
  .of_record (fun s => [slot "phase" s.phase, slotIfSome "clusterID" s.clusterId,
      slotUnless s.pools.isEmpty "nodePoolStatuses" s.pools,
      slotIfSome "failureMessage" s.failureMessage])
    rfl (fun _ => rfl) (fun _ => by simp [encode]) (fun _ => rfl) (by decide) (fun _ => by simp)
    fun _ => ⟨_, (Reading.getD (by simp) (by simp)).bind fun _ =>
      (Reading.optional (by simp) (by simp)).bind fun _ =>
      (Reading.getDUnless _ (by simp) (by simp) KeyMap.eq_empty_of_isEmpty).bind fun _ =>
      (Reading.optional (by simp) (by simp)).bind fun _ => .pure _, rfl⟩

instance : Laid ControlPlane := ⟨.record [required "high_availability" Bool]⟩

instance : LawfulWire ControlPlane :=
  .of_record (fun c => [slot "high_availability" c.highlyAvailable])
    rfl (fun _ => rfl) (fun _ => by simp [encode]) (fun _ => rfl) (by decide) (fun _ => by simp)
    fun _ => ⟨_, (Reading.need (by simp) (by simp)).bind fun _ => .pure _, rfl⟩

instance : Laid RemoteCluster :=
  ⟨.record [required "id" ClusterId, required "label" String, required "region" String,
    required "k8s_version" String, required "status" String,
    defaulted "tags" ([] : List String), defaulted "control_plane" (⟨false⟩ : ControlPlane)]⟩

instance : LawfulWire RemoteCluster :=
  .of_record (fun c => [slot "id" c.id, slot "label" c.label, slot "region" c.region,
      slot "k8s_version" c.version, slot "status" c.status, slot "tags" c.tags,
      slot "control_plane" c.controlPlane])
    rfl (fun _ => rfl) (fun _ => by simp [encode]) (fun _ => rfl) (by decide) (fun _ => by simp)
    fun _ => ⟨_, (Reading.need (by simp) (by simp)).bind fun _ =>
      (Reading.need (by simp) (by simp)).bind fun _ =>
      (Reading.need (by simp) (by simp)).bind fun _ =>
      (Reading.need (by simp) (by simp)).bind fun _ =>
      (Reading.need (by simp) (by simp)).bind fun _ =>
      (Reading.getD (by simp) (by simp)).bind fun _ =>
      (Reading.getD (by simp) (by simp)).bind fun _ => .pure _, rfl⟩

instance : Laid RemoteScaling :=
  ⟨.record [required "enabled" Bool, required "min" UInt32, required "max" UInt32]⟩

instance : Present RemoteScaling := ⟨fun _ => rfl⟩

instance : LawfulWire RemoteScaling :=
  .of_record (fun s => [slot "enabled" s.enabled, slot "min" s.min, slot "max" s.max])
    rfl (fun _ => rfl) (fun _ => by simp [encode]) (fun _ => rfl) (by decide) (fun _ => by simp)
    fun _ => ⟨_, (Reading.need (by simp) (by simp)).bind fun _ =>
      (Reading.need (by simp) (by simp)).bind fun _ =>
      (Reading.need (by simp) (by simp)).bind fun _ => .pure _, rfl⟩

instance : Laid RemoteNode :=
  ⟨.record [required "id" String,
    defaulted "instance_id" (none : Option Int64), required "status" String]⟩

instance : LawfulWire RemoteNode :=
  .of_record (fun n => [slot "id" n.id, slot "instance_id" n.instanceId, slot "status" n.status])
    rfl (fun _ => rfl) (fun _ => by simp [encode]) (fun _ => rfl) (by decide) (fun _ => by simp)
    fun _ => ⟨_, (Reading.need (by simp) (by simp)).bind fun _ =>
      (Reading.getD (by simp) (by simp)).bind fun _ =>
      (Reading.need (by simp) (by simp)).bind fun _ => .pure _, rfl⟩

instance : Laid RemotePool :=
  ⟨.record [required "id" PoolId, required "count" UInt32, required "type" String,
    defaulted "tags" ([] : List String),
    defaulted "autoscaler" RemoteScaling.off, defaulted "nodes" ([] : List RemoteNode)]⟩

instance : LawfulWire RemotePool :=
  .of_record (fun p => [slot "id" p.id, slot "count" p.count, slot "type" p.instanceType,
      slot "tags" p.tags, slot "autoscaler" p.scaling, slot "nodes" p.nodes])
    rfl (fun _ => rfl) (fun _ => by simp [encode]) (fun _ => rfl) (by decide) (fun _ => by simp)
    fun _ => ⟨_, (Reading.need (by simp) (by simp)).bind fun _ =>
      (Reading.need (by simp) (by simp)).bind fun _ =>
      (Reading.need (by simp) (by simp)).bind fun _ =>
      (Reading.getD (by simp) (by simp)).bind fun _ =>
      (Reading.getD (by simp) (by simp)).bind fun _ =>
      (Reading.getD (by simp) (by simp)).bind fun _ => .pure _, rfl⟩

instance : Laid ControlPlaneRequest :=
  ⟨.record [defaulted "high_availability" (none : Option Bool)]⟩

instance : Present ControlPlaneRequest := ⟨fun _ => rfl⟩

instance : LawfulWire ControlPlaneRequest :=
  .of_record (fun c => [slotIfSome "high_availability" c.highlyAvailable])
    rfl (fun _ => rfl) (fun _ => by simp [encode]) (fun _ => rfl) (by decide) (fun _ => by simp)
    fun _ => ⟨_, (Reading.optional (by simp) (by simp)).bind fun _ => .pure _, rfl⟩

instance : Laid PoolCreation :=
  ⟨.record [required "count" UInt32, required "type" String,
    defaulted "tags" ([] : List String), defaulted "autoscaler" (none : Option RemoteScaling)]⟩

instance : LawfulWire PoolCreation :=
  .of_record (fun p => [slot "count" p.count, slot "type" p.instanceType,
      slotUnless p.tags.isEmpty "tags" p.tags, slotIfSome "autoscaler" p.scaling])
    rfl (fun _ => rfl) (fun _ => by simp [encode, fieldUnlessEmpty_eq]) (fun _ => rfl) (by decide)
    (fun _ => by simp)
    fun _ => ⟨_, (Reading.need (by simp) (by simp)).bind fun _ =>
      (Reading.need (by simp) (by simp)).bind fun _ =>
      (Reading.getDUnless _ (by simp) (by simp) List.isEmpty_iff.mp).bind fun _ =>
      (Reading.optional (by simp) (by simp)).bind fun _ => .pure _, rfl⟩

instance : Laid PoolUpdate :=
  ⟨.record [required "count" UInt32, defaulted "tags" (none : Option (List String)),
    defaulted "autoscaler" (none : Option RemoteScaling)]⟩

instance : LawfulWire PoolUpdate :=
  .of_record (fun u => [slot "count" u.count, slotIfSome "tags" u.tags,
      slotIfSome "autoscaler" u.scaling])
    rfl (fun _ => rfl) (fun _ => by simp [encode]) (fun _ => rfl) (by decide) (fun _ => by simp)
    fun _ => ⟨_, (Reading.need (by simp) (by simp)).bind fun _ =>
      (Reading.optional (by simp) (by simp)).bind fun _ =>
      (Reading.optional (by simp) (by simp)).bind fun _ => .pure _, rfl⟩

instance : Laid ClusterCreation :=
  ⟨.record [required "label" String, required "region" String, required "k8s_version" String,
    required "node_pools" (List PoolCreation),
    defaulted "tags" ([] : List String),
    defaulted "control_plane" (none : Option ControlPlaneRequest)]⟩

instance : LawfulWire ClusterCreation :=
  .of_record (fun c => [slot "label" c.label, slot "region" c.region, slot "k8s_version" c.version,
      slot "node_pools" c.pools, slotUnless c.tags.isEmpty "tags" c.tags,
      slotIfSome "control_plane" c.controlPlane])
    rfl (fun _ => rfl) (fun _ => by simp [encode, fieldUnlessEmpty_eq]) (fun _ => rfl) (by decide)
    (fun _ => by simp)
    fun _ => ⟨_, (Reading.need (by simp) (by simp)).bind fun _ =>
      (Reading.need (by simp) (by simp)).bind fun _ =>
      (Reading.need (by simp) (by simp)).bind fun _ =>
      (Reading.need (by simp) (by simp)).bind fun _ =>
      (Reading.getDUnless _ (by simp) (by simp) List.isEmpty_iff.mp).bind fun _ =>
      (Reading.optional (by simp) (by simp)).bind fun _ => .pure _, rfl⟩

instance : Laid ClusterUpdate :=
  ⟨.record [defaulted "tags" (none : Option (List String)),
    defaulted "control_plane" (none : Option ControlPlaneRequest)]⟩

instance : LawfulWire ClusterUpdate :=
  .of_record (fun u => [slotIfSome "tags" u.tags, slotIfSome "control_plane" u.controlPlane])
    rfl (fun _ => rfl) (fun _ => by simp [encode]) (fun _ => rfl) (by decide) (fun _ => by simp)
    fun _ => ⟨_, (Reading.optional (by simp) (by simp)).bind fun _ =>
      (Reading.optional (by simp) (by simp)).bind fun _ => .pure _, rfl⟩

/-- The text of data. -/
def textOf {α : Type} [Wire α] (a : α) : String := Json.write (encode a)

/-- The data that a text holds. -/
def ofText {α : Type} [Wire α] (text : String) : Except Mismatch α := (Json.read text).bind decode

/-- A text read as data of a type and written again. -/
def rewritten (α : Type) [Wire α] (text : String) : Except Mismatch String :=
  (ofText text : Except Mismatch α).map textOf

/-- Data of a type survive being written and read. -/
structure RoundTrips (α : Type) [Wire α] [Laid α] : Prop where
  ofText_textOf : ∀ a : α, ofText (textOf a) = .ok a
  /-- Fields may be left out of what is written, and members added to it. -/
  ofText_write : ∀ {a : α} {v : Value}, Varies (layout α) (encode a) v → v.IsPlain →
    ofText (Json.write v) = .ok a
  /-- The same goes for every text that is accepted, however it is written. -/
  ofText_varies : ∀ {a : α} {text text' : String} {v v' : Value}, Json.read text = .ok v →
    Json.read text' = .ok v' → Varies (layout α) v v' → ofText text = .ok a → ofText text' = .ok a
  /-- What was rewritten once stays as it is. -/
  rewritten_rewritten : ∀ {text text' : String}, rewritten α text = .ok text' →
    rewritten α text' = .ok text'

section Texts

variable {α : Type} [Wire α]

theorem ofText_of_read {text : String} {v : Value} (h : Json.read text = .ok v) :
    (ofText text : Except Mismatch α) = decode v := by
  rw [ofText, h, Except.bind]

theorem ofText_write {v : Value} (h : v.IsPlain) :
    (ofText (Json.write v) : Except Mismatch α) = decode v := ofText_of_read (Json.read_write h)

variable [Laid α] [LawfulWire α]

theorem ofText_textOf (a : α) : ofText (textOf a) = .ok a :=
  (ofText_write (LawfulWire.isPlain_encode a)).trans (LawfulWire.decode_encode a)

theorem LawfulWire.roundTrips : RoundTrips α where
  ofText_textOf := ofText_textOf
  ofText_write hvaries hplain := by
    rw [ofText_write hplain]
    exact decode_varies hvaries (decode_encode _)
  ofText_varies hread hread' hvaries h := by
    rw [ofText_of_read hread] at h
    rw [ofText_of_read hread']
    exact decode_varies hvaries h
  rewritten_rewritten {text text'} h := by
    cases hdata : (ofText text : Except Mismatch α) with
    | error mismatch =>
        rw [rewritten, hdata] at h
        cases h
    | ok a =>
        rw [rewritten, hdata] at h
        obtain rfl : textOf a = text' := Except.ok.inj h
        rw [rewritten, ofText_textOf a, Except.map]

end Texts

/-- Declarations, their status, and what is exchanged with the provider survive being written and
read. -/
theorem records_survive_writing :
    RoundTrips ClusterSpec ∧ RoundTrips ClusterStatus ∧ RoundTrips PoolShape ∧
      RoundTrips PoolRecord ∧ RoundTrips RemoteCluster ∧ RoundTrips RemotePool ∧
      RoundTrips PoolCreation ∧ RoundTrips PoolUpdate ∧ RoundTrips ClusterCreation ∧
      RoundTrips ClusterUpdate :=
  ⟨LawfulWire.roundTrips, LawfulWire.roundTrips, LawfulWire.roundTrips, LawfulWire.roundTrips,
    LawfulWire.roundTrips, LawfulWire.roundTrips, LawfulWire.roundTrips, LawfulWire.roundTrips,
    LawfulWire.roundTrips, LawfulWire.roundTrips⟩

-- The tags are to be cleared, not left alone.
example : ofText "\x7b\"tags\":[],\"note\":1.5\x7d" = .ok (⟨some [], none⟩ : ClusterUpdate) := by
  decide

end ClusterKeeper
