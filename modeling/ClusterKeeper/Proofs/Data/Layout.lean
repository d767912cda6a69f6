import Mathlib.Data.List.Nodup
import Mathlib.Logic.Relation
import ClusterKeeper.Proofs.Data.JsonText
import ClusterKeeper.Data.Wire
/-!
Layouts: which parts of a written form may be left out, and where more may be added.

A field of a record may be left out where its value is the one that an absent field stands for, and
a member of a name that is no field may stand anywhere in it. `LawfulWire` says of a type that its
data are read back from their written form, and that none of this changes what is read. A record is
read by asking for its fields, so `Reading` follows that from one field to the next.
-/

namespace ClusterKeeper

/-- How data of a type are laid out. -/
inductive Layout where
  /-- No part has a name of its own. -/
  | scalar
  | list (items : Layout)
  /-- The names are data. -/
  | map (values : Layout)
  /-- Fields by name, with the layout of each and the written form of what an absent one stands for;
  none if it has to be there. -/
  | record (fields : List (String × Layout × Option Value))

/-- Types whose data have a layout. -/
class Laid (α : Type) where
  layout : Layout

export Laid (layout)

instance : Laid Bool := ⟨.scalar⟩
instance : Laid String := ⟨.scalar⟩
instance : Laid UInt32 := ⟨.scalar⟩
instance : Laid Int64 := ⟨.scalar⟩

instance {α : Type} [Laid α] : Laid (Option α) := ⟨layout α⟩
instance {α : Type} [Laid α] : Laid (List α) := ⟨.list (layout α)⟩
instance {α : Type} [Laid α] : Laid (KeyMap α) := ⟨.map (layout α)⟩

namespace Layout

/-- A field of a record. -/
abbrev Field : Type := String × Layout × Option Value

/-- A field that has to be there. -/
def required (name : String) (α : Type) [Laid α] : Field := (name, layout α, none)

/-- A field that stands for a value of its own where it is absent. -/
def defaulted {α : Type} [Wire α] [Laid α] (name : String) (default : α) : Field :=
  (name, layout α, some (encode default))

/-- A single change that leaves alone what a written form stands for, at any depth. -/
inductive Step : Layout → Value → Value → Prop
  | item {items : Layout} {before after : List Value} {v v' : Value} (h : Step items v v') :
      Step (.list items) (.list (before ++ v :: after)) (.list (before ++ v' :: after))
  | entry {values : Layout} {name : String} {before after : List (String × Value)} {v v' : Value}
      (h : Step values v v') :
      Step (.map values) (.object (before ++ (name, v) :: after))
        (.object (before ++ (name, v') :: after))
  | field {fields : List Field} {name : String} {inner : Layout} {default : Option Value}
      {before after : List (String × Value)} {v v' : Value}
      (hfield : (name, inner, default) ∈ fields) (h : Step inner v v') :
      Step (.record fields) (.object (before ++ (name, v) :: after))
        (.object (before ++ (name, v') :: after))
  /-- A field is left out. -/
  | omitted {fields : List Field} {name : String} {inner : Layout} {default : Value}
      {before after : List (String × Value)} (hfield : (name, inner, some default) ∈ fields) :
      Step (.record fields) (.object (before ++ (name, default) :: after))
        (.object (before ++ after))
  /-- A member is added that is no field. -/
  | extra {fields : List Field} {name : String} {before after : List (String × Value)} {v : Value}
      (hname : name ∉ fields.map (·.1)) :
      Step (.record fields) (.object (before ++ after)) (.object (before ++ (name, v) :: after))

/-- Any number of such changes. -/
def Varies (laid : Layout) : Value → Value → Prop := Relation.ReflTransGen (Step laid)

theorem Step.isAbsent_eq_false {laid : Layout} {v v' : Value} (h : Step laid v v') :
    v.isAbsent = false ∧ v'.isAbsent = false := by
  cases h <;> exact ⟨rfl, rfl⟩

end Layout

open Layout

/-- Types whose data are read back from their written form, and also where that was changed in ways
that leave it alone. -/
class LawfulWire (α : Type) [Wire α] [Laid α] : Prop where
  decode_encode : ∀ a : α, decode (encode a) = .ok a
  decode_step : ∀ {v v' : Value} {a : α}, Step (layout α) v v' → decode v = .ok a →
    decode v' = .ok a
  isPlain_encode : ∀ a : α, (encode a).IsPlain

/-- Types whose data are never written as an absent value. -/
class Present (α : Type) [Wire α] : Prop where
  isAbsent_encode : ∀ a : α, (encode a).isAbsent = false

theorem mapM_eq_ok_of_forall {γ β ε : Type} {f : γ → Except ε β} {g : γ → β} {items : List γ}
    (h : ∀ item ∈ items, f item = .ok (g item)) : items.mapM f = .ok (items.map g) := by
  induction items with
  | nil => rfl
  | cons item rest ih =>
      obtain ⟨hitem, hrest⟩ := List.forall_mem_cons.mp h
      rw [List.mapM_cons, hitem, ih hrest]
      rfl

/-- An item can be replaced by one that is read the same. -/
theorem mapM_replaced {γ β ε : Type} {f : γ → Except ε β} {before after : List γ} {c c' : γ}
    {results : List β} (hsame : ∀ b, f c = .ok b → f c' = .ok b)
    (h : (before ++ c :: after).mapM f = .ok results) :
    (before ++ c' :: after).mapM f = .ok results := by
  rw [List.mapM_append, List.mapM_cons] at h ⊢
  cases hbefore : before.mapM f with
  | error e =>
      rw [hbefore] at h
      cases h
  | ok first =>
      rw [hbefore] at h
      cases hc : f c with
      | error e =>
          rw [hc] at h
          cases h
      | ok b =>
          rw [hc] at h
          rw [hsame b hc]
          exact h

/-- The image of a result is that of any other that agrees with it where it is no error. -/
theorem map_replaced {ε β γ : Type} {r r' : Except ε β} {f : β → γ} {c : γ}
    (hsame : ∀ b, r = .ok b → r' = .ok b) (h : r.map f = .ok c) : r'.map f = .ok c := by
  cases r with
  | error e => cases h
  | ok b =>
      rw [hsame b rfl]
      exact h

section Lawful

variable {α : Type} [Wire α] [Laid α] [LawfulWire α] {a : α} {v v' : Value}

theorem LawfulWire.decode_varies (hvaries : Varies (layout α) v v') (h : decode v = .ok a) :
    decode v' = .ok a := by
  induction hvaries with
  | refl => exact h
  | tail _ hstep ih => exact decode_step hstep ih

instance : Present Bool := ⟨fun _ => rfl⟩
instance : Present String := ⟨fun _ => rfl⟩
instance : Present UInt32 := ⟨fun _ => rfl⟩
instance : Present Int64 := ⟨fun _ => rfl⟩
instance : Present (List α) := ⟨fun _ => rfl⟩
instance : Present (KeyMap α) := ⟨fun _ => rfl⟩

instance : LawfulWire Bool where
  decode_encode _ := rfl
  decode_step h _ := by cases h
  isPlain_encode b := .bool b

instance : LawfulWire String where
  decode_encode _ := rfl
  decode_step h _ := by cases h
  isPlain_encode s := .text s

theorem decodeInt_of_mem {low high n : Int} (hlow : low ≤ n) (hhigh : n ≤ high) :
    decodeInt low high (.int n) = .ok n := if_pos ⟨hlow, hhigh⟩

instance : LawfulWire UInt32 where
  decode_encode n := by
    have hlt := n.toNat_lt
    have hread : decodeInt 0 4294967295 (.int n.toNat) = .ok n.toNat :=
      decodeInt_of_mem (by omega) (by omega)
    change (decodeInt 0 4294967295 (.int n.toNat)).map _ = _
    rw [hread, Except.map, Int.toNat_natCast, UInt32.ofNat_toNat]
  decode_step h _ := by cases h
  isPlain_encode n := by
    have hlt := n.toNat_lt
    exact .int (by rw [Json.isWide, decide_eq_true_iff]; omega)

instance : LawfulWire Int64 where
  decode_encode n := by
    have hlow := n.le_toInt
    have hhigh := n.toInt_lt
    have hread : decodeInt (-9223372036854775808) 9223372036854775807 (.int n.toInt) =
        .ok n.toInt := decodeInt_of_mem (by omega) (by omega)
    change (decodeInt _ _ (.int n.toInt)).map _ = _
    rw [hread, Except.map, Int64.ofInt_toInt]
  decode_step h _ := by cases h
  isPlain_encode n := by
    have hlow := n.le_toInt
    have hhigh := n.toInt_lt
    exact .int (by rw [Json.isWide, decide_eq_true_iff]; omega)

instance : LawfulWire (List α) where
  decode_encode items := by
    change (items.map encode).mapM decode = _
    rw [List.mapM_map]
    exact (mapM_eq_ok_of_forall fun item _ => LawfulWire.decode_encode item).trans
      (congrArg Except.ok (List.map_id' items))
  decode_step h hv := by
    cases h with
    | item h => exact mapM_replaced (fun _ => LawfulWire.decode_step h) hv
  isPlain_encode items := by
    refine .list fun v hv => ?_
    obtain ⟨item, _, rfl⟩ := List.mem_map.mp hv
    exact LawfulWire.isPlain_encode item

instance : LawfulWire (KeyMap α) where
  decode_encode map := by
    change (((map.entries.map fun entry => (entry.1, encode entry.2)).mapM
      fun m => (decode m.2).map (m.1, ·)).map KeyMap.ofList) = _
    have hentry : ∀ entry : String × α,
        ((decode (encode entry.2) : Except Mismatch α).map (entry.1, ·)) = .ok entry := by
      intro entry
      rw [LawfulWire.decode_encode, Except.map]
    rw [List.mapM_map]
    refine (congrArg (Except.map KeyMap.ofList)
      (mapM_eq_ok_of_forall fun entry _ => hentry entry)).trans ?_
    rw [List.map_id', Except.map, KeyMap.ofList_entries]
  decode_step h hv := by
    cases h with
    | entry h =>
        refine map_replaced (fun entries => mapM_replaced fun entry => ?_) hv
        exact map_replaced fun _ => LawfulWire.decode_step h
  isPlain_encode map := by
    refine .object fun m hm => ?_
    obtain ⟨entry, _, rfl⟩ := List.mem_map.mp hm
    exact LawfulWire.isPlain_encode entry.2

omit [Laid α] [LawfulWire α] in
theorem decode_eq_of_not_isAbsent (h : v.isAbsent = false) :
    (decode v : Except Mismatch (Option α)) = (decode v : Except Mismatch α).map some := by
  change (if v.isAbsent then .ok none else (decode v).map some) = _
  rw [h]
  rfl

instance [Present α] : LawfulWire (Option α) where
  decode_encode o := by
    cases o with
    | none => rfl
    | some a =>
        change (decode (encode a) : Except Mismatch (Option α)) = _
        rw [decode_eq_of_not_isAbsent (Present.isAbsent_encode a), LawfulWire.decode_encode]
        rfl
  decode_step {v v' o} h hv := by
    have hstep : Step (layout α) v v' := h
    obtain ⟨hpresent, hpresent'⟩ := hstep.isAbsent_eq_false
    rw [decode_eq_of_not_isAbsent hpresent] at hv
    rw [decode_eq_of_not_isAbsent hpresent']
    exact map_replaced (fun _ => LawfulWire.decode_step hstep) hv
  isPlain_encode o := by
    cases o with
    | none => exact .null
    | some a => exact LawfulWire.isPlain_encode a

end Lawful

/-- What is found under a name before and after a change. -/
inductive Layout.SlotAlike (inner : Layout) (default : Option Value) :
    Option Value → Option Value → Prop
  | same (o : Option Value) : SlotAlike inner default o o
  | varied {v v' : Value} (h : Step inner v v') : SlotAlike inner default (some v) (some v')
  | omitted {v : Value} (h : default = some v) : SlotAlike inner default (some v) none

/-- What is found under the names of all fields before and after a change. -/
def Members.Alike (fields : List Field) (m m' : Members) : Prop :=
  ∀ name inner default, (name, inner, default) ∈ fields →
    SlotAlike inner default (m.get? name) (m'.get? name)

section Records

variable {fields : List Field} {name other : String} {before after : List (String × Value)}
  {v v' : Value} {m m' : Members}

theorem get?_of_not_mem (h : name ∉ before.map (·.1)) (positional : Bool) :
    (Members.mk (before ++ (name, v) :: after) positional).get? name = some v := by
  have hnone : before.find? (fun m => m.1 == name) = none := by
    rw [List.find?_eq_none]
    intro m hm hname
    exact h (List.mem_map.mpr ⟨m, hm, by simpa using hname⟩)
  simp [Members.get?, List.find?_append, hnone]

theorem get?_of_ne (h : name ≠ other) (positional : Bool) :
    (Members.mk (before ++ (name, v) :: after) positional).get? other =
      (Members.mk (before ++ after) positional).get? other := by
  simp [Members.get?, List.find?_append, h]

theorem get?_eq_none (h : name ∉ before.map (·.1)) (positional : Bool) :
    (Members.mk before positional).get? name = none := by
  simp only [Members.get?, Option.map_eq_none_iff, List.find?_eq_none]
  intro m hm hname
  exact h (List.mem_map.mpr ⟨m, hm, by simpa using hname⟩)

/-- The members of those names, where none is there twice. -/
theorem ofValue_object_eq_ok_iff {names : List String} {members : List (String × Value)} :
    Members.ofValue names (.object members) = .ok m ↔
      ((members.filter fun m => names.contains m.1).map (·.1)).Nodup ∧
        m = ⟨members.filter fun m => names.contains m.1, false⟩ := by
  rw [← firstRepeated?_eq_none_iff, Members.ofValue]
  cases firstRepeated? ((members.filter fun m => names.contains m.1).map (·.1)) with
  | none => simp [eq_comm]
  | some repeated => simp

/-- Fields of one name are the same. -/
theorem eq_of_mem_fields (hnodup : (fields.map (·.1)).Nodup) {inner inner' : Layout}
    {default default' : Option Value} (h : (name, inner, default) ∈ fields)
    (h' : (name, inner', default') ∈ fields) : inner = inner' ∧ default = default' := by
  have heq := List.inj_on_of_nodup_map hnodup h h' rfl
  cases heq
  exact ⟨rfl, rfl⟩

/-- A field is read otherwise after a step of its value. -/
theorem alike_replaced (hnodup : (fields.map (·.1)).Nodup)
    (hdistinct : ((before ++ (name, v) :: after).map (·.1)).Nodup) {inner : Layout}
    {default : Option Value} (hfield : (name, inner, default) ∈ fields) (h : Step inner v v') :
    Members.Alike fields ⟨before ++ (name, v) :: after, false⟩
      ⟨before ++ (name, v') :: after, false⟩ := by
  have hfirst : name ∉ before.map (·.1) := by
    simp only [List.map_append, List.map_cons, List.nodup_middle, List.nodup_cons,
      List.mem_append, not_or] at hdistinct
    exact hdistinct.1.1
  intro other inner' default' hother
  by_cases hname : name = other
  · subst hname
    obtain ⟨rfl, rfl⟩ := eq_of_mem_fields hnodup hfield hother
    rw [get?_of_not_mem hfirst, get?_of_not_mem hfirst]
    exact .varied h
  · rw [get?_of_ne hname, get?_of_ne hname]
    exact .same _

/-- A field that is left out is read as what it stands for. -/
theorem alike_omitted (hnodup : (fields.map (·.1)).Nodup)
    (hdistinct : ((before ++ (name, v) :: after).map (·.1)).Nodup) {inner : Layout}
    (hfield : (name, inner, some v) ∈ fields) :
    Members.Alike fields ⟨before ++ (name, v) :: after, false⟩ ⟨before ++ after, false⟩ := by
  simp only [List.map_append, List.map_cons, List.nodup_middle, List.nodup_cons] at hdistinct
  intro other inner' default' hother
  by_cases hname : name = other
  · subst hname
    obtain ⟨rfl, rfl⟩ := eq_of_mem_fields hnodup hfield hother
    rw [get?_of_not_mem fun hmem => hdistinct.1 (List.mem_append_left _ hmem),
      get?_eq_none (by simpa using hdistinct.1)]
    exact .omitted rfl
  · rw [get?_of_ne hname]
    exact .same _

/-- After a step the same is found, but for a field of which the value changed or was left out. -/
theorem Layout.Step.alike (hnodup : (fields.map (·.1)).Nodup) (hstep : Step (.record fields) v v')
    (hm : Members.ofValue (fields.map (·.1)) v = .ok m) :
    ∃ m', Members.ofValue (fields.map (·.1)) v' = .ok m' ∧ Members.Alike fields m m' := by
  have hkeep : ∀ {name : String} {before after : List (String × Value)} (v : Value),
      name ∈ fields.map (·.1) →
      (before ++ (name, v) :: after).filter (fun m => (fields.map (·.1)).contains m.1) =
        before.filter (fun m => (fields.map (·.1)).contains m.1) ++
          (name, v) :: after.filter (fun m => (fields.map (·.1)).contains m.1) := by
    intro name before after v hname
    rw [List.filter_append, List.filter_cons_of_pos (by simpa using hname)]
  cases hstep with
  | @field _ name inner default before after v v' hfield h =>
      obtain ⟨hdistinct, rfl⟩ := ofValue_object_eq_ok_iff.mp hm
      have hname : name ∈ fields.map (·.1) := List.mem_map_of_mem hfield
      rw [hkeep v hname] at hdistinct ⊢
      refine ⟨_, ofValue_object_eq_ok_iff.mpr ⟨?_, rfl⟩, ?_⟩
      · rw [hkeep v' hname]
        simpa using hdistinct
      · rw [hkeep v' hname]
        exact alike_replaced hnodup hdistinct hfield h
  | @omitted _ name inner default before after hfield =>
      obtain ⟨hdistinct, rfl⟩ := ofValue_object_eq_ok_iff.mp hm
      have hname : name ∈ fields.map (·.1) := List.mem_map_of_mem hfield
      rw [hkeep default hname] at hdistinct ⊢
      refine ⟨_, ofValue_object_eq_ok_iff.mpr ⟨?_, rfl⟩, ?_⟩
      · rw [List.filter_append]
        simp only [List.map_append, List.map_cons, List.nodup_middle, List.nodup_cons] at hdistinct
        simpa using hdistinct.2
      · rw [List.filter_append]
        exact alike_omitted hnodup hdistinct hfield
  | @extra _ name before after v hname =>
      refine ⟨m, ?_, fun _ _ _ _ => .same _⟩
      have hdrop : (before ++ (name, v) :: after).filter
          (fun m => (fields.map (·.1)).contains m.1) =
          (before ++ after).filter (fun m => (fields.map (·.1)).contains m.1) := by
        rw [List.filter_append, List.filter_append, List.filter_cons_of_neg (by simpa using hname)]
      rw [ofValue_object_eq_ok_iff] at hm ⊢
      rwa [hdrop]

/-- A record as it is written: the fields that have a written form. -/
def writtenFields (slots : List (String × Option Value)) : List (String × Value) :=
  slots.filterMap fun slot => slot.2.map (slot.1, ·)

theorem mem_map_writtenFields {slots : List (String × Option Value)}
    (h : name ∈ (writtenFields slots).map (·.1)) : name ∈ slots.map (·.1) := by
  obtain ⟨m, hm, rfl⟩ := List.mem_map.mp h
  obtain ⟨slot, hslot, hvalue⟩ := List.mem_filterMap.mp hm
  obtain ⟨v, _, rfl⟩ := Option.map_eq_some_iff.mp hvalue
  exact List.mem_map_of_mem hslot

theorem nodup_writtenFields {slots : List (String × Option Value)}
    (h : (slots.map (·.1)).Nodup) : ((writtenFields slots).map (·.1)).Nodup := by
  induction slots with
  | nil => exact List.nodup_nil
  | cons slot rest ih =>
      obtain ⟨name, o⟩ := slot
      rw [List.map_cons, List.nodup_cons] at h
      cases o with
      | none => exact ih h.2
      | some v =>
          exact List.nodup_cons.mpr ⟨fun hmem => h.1 (mem_map_writtenFields hmem), ih h.2⟩

theorem get?_writtenFields {slots : List (String × Option Value)} {o : Option Value}
    (hnodup : (slots.map (·.1)).Nodup) (h : (name, o) ∈ slots) :
    (Members.mk (writtenFields slots) false).get? name = o := by
  obtain ⟨before, after, rfl⟩ := List.append_of_mem h
  rw [List.map_append, List.map_cons, List.nodup_middle, List.nodup_cons] at hnodup
  have hfirst : name ∉ (writtenFields before).map (·.1) := fun hmem =>
    hnodup.1 (List.mem_append_left _ (mem_map_writtenFields hmem))
  have hlast : name ∉ (writtenFields after).map (·.1) := fun hmem =>
    hnodup.1 (List.mem_append_right _ (mem_map_writtenFields hmem))
  cases o with
  | none =>
      have hsplit : writtenFields (before ++ (name, none) :: after) =
          writtenFields before ++ writtenFields after := by
        simp [writtenFields]
      rw [hsplit]
      apply get?_eq_none
      rw [List.map_append, List.mem_append]
      rintro (hmem | hmem)
      · exact hfirst hmem
      · exact hlast hmem
  | some v =>
      have hsplit : writtenFields (before ++ (name, some v) :: after) =
          writtenFields before ++ (name, v) :: writtenFields after := by
        simp [writtenFields]
      rw [hsplit]
      exact get?_of_not_mem hfirst false

end Records

section Slots

variable {α : Type} [Wire α] {name : String} {rest : List (String × Option Value)}

/-- What is written in any case. -/
def slot (name : String) (a : α) : String × Option Value := (name, some (encode a))

/-- What is written only where there is a value. -/
def slotIfSome (name : String) (o : Option α) : String × Option Value := (name, o.map encode)

/-- What is written unless it is left out. -/
def slotUnless (out : Bool) (name : String) (a : α) : String × Option Value :=
  (name, if out then none else some (encode a))

@[simp] theorem writtenFields_nil : writtenFields [] = [] := rfl

@[simp] theorem writtenFields_slot (a : α) :
    writtenFields (slot name a :: rest) = field name a ++ writtenFields rest := rfl

@[simp] theorem writtenFields_slotIfSome (o : Option α) :
    writtenFields (slotIfSome name o :: rest) = fieldIfSome name o ++ writtenFields rest := by
  cases o <;> rfl

@[simp] theorem writtenFields_slotUnless (out : Bool) (a : α) :
    writtenFields (slotUnless out name a :: rest) =
      (if out then [] else field name a) ++ writtenFields rest := by
  cases out <;> rfl

theorem fieldUnlessEmpty_eq (items : List α) :
    fieldUnlessEmpty name items = if items.isEmpty then [] else field name items := by
  cases items <;> rfl

/-- What is written there is plain. -/
def IsPlainSlot (slot : String × Option Value) : Prop := ∀ v ∈ slot.2, v.IsPlain

variable [Laid α] [LawfulWire α]

@[simp] theorem isPlainSlot_slot (name : String) (a : α) : IsPlainSlot (slot name a) := by
  rintro _ ⟨⟩
  exact LawfulWire.isPlain_encode a

@[simp] theorem isPlainSlot_slotIfSome (o : Option α) : IsPlainSlot (slotIfSome name o) := by
  cases o with
  | none => rintro _ ⟨⟩
  | some a => exact isPlainSlot_slot name a

@[simp] theorem isPlainSlot_slotUnless (out : Bool) (a : α) :
    IsPlainSlot (slotUnless out name a) := by
  cases out with
  | true => rintro _ ⟨⟩
  | false => exact isPlainSlot_slot name a

end Slots

section Reading

variable {α β : Type} {fields : List Field} {slots : List (String × Option Value)} {name : String}

/-- From the written slots that is read, and what is read does not change with what stands for the
same. -/
structure Reading (fields : List Field) (slots : List (String × Option Value))
    (read : Members → Except Mismatch α) (a : α) : Prop where
  reads : (slots.map (·.1)).Nodup → read ⟨writtenFields slots, false⟩ = .ok a
  same : ∀ {m m' : Members} {found : α}, Members.Alike fields m m' → read m = .ok found →
    read m' = .ok found

namespace Reading

theorem pure (a : α) : Reading fields slots (fun _ => .ok a) a := ⟨fun _ => rfl, fun _ h => h⟩

theorem bind {read : Members → Except Mismatch α} {next : α → Members → Except Mismatch β}
    {a : α} {b : α → β} (hread : Reading fields slots read a)
    (hnext : ∀ a, Reading fields slots (next a) (b a)) :
    Reading fields slots (fun m => read m >>= fun a => next a m) (b a) where
  reads hnodup := by
    rw [hread.reads hnodup]
    exact (hnext a).reads hnodup
  same {m m' found} halike h := by
    cases hfound : read m with
    | error mismatch =>
        rw [hfound] at h
        cases h
    | ok first =>
        rw [hfound] at h
        rw [hread.same halike hfound]
        exact (hnext first).same halike h

variable [Wire α] [Laid α] [LawfulWire α]

/-- A field that has to be there. -/
theorem need {a : α} (hfield : required name α ∈ fields) (hslot : slot name a ∈ slots) :
    Reading fields slots (·.need name) a where
  reads hnodup := by
    rw [Members.need, get?_writtenFields hnodup hslot]
    exact LawfulWire.decode_encode a
  same {m m' found} halike h := by
    have hslots := halike _ _ _ hfield
    rw [Members.need] at h ⊢
    generalize m.get? name = o at h hslots
    generalize m'.get? name = o' at hslots
    cases hslots with
    | same => exact h
    | varied hstep => exact LawfulWire.decode_step hstep h
    | omitted hdefault => cases hdefault

/-- A field that stands for a value of its own where it is absent. -/
theorem getDUnless {a default : α} (out : Bool) (hfield : defaulted name default ∈ fields)
    (hslot : slotUnless out name a ∈ slots) (hout : out = true → a = default) :
    Reading fields slots (·.getD name default) a where
  reads hnodup := by
    rw [Members.getD, get?_writtenFields hnodup hslot]
    cases out with
    | false => exact LawfulWire.decode_encode a
    | true => exact congrArg Except.ok (hout rfl).symm
  same {m m' found} halike h := by
    have hslots := halike _ _ _ hfield
    rw [Members.getD] at h ⊢
    generalize m.get? name = o at h hslots
    generalize m'.get? name = o' at hslots
    cases hslots with
    | same => exact h
    | varied hstep => exact LawfulWire.decode_step hstep h
    | omitted hdefault =>
        cases hdefault
        have hread : decode (encode default) = .ok found := h
        rw [LawfulWire.decode_encode] at hread
        exact hread

/-- Such a field that is written in any case. -/
theorem getD {a default : α} (hfield : defaulted name default ∈ fields)
    (hslot : slot name a ∈ slots) : Reading fields slots (·.getD name default) a :=
  getDUnless false hfield hslot fun h => nomatch h

/-- A field that is written only where there is a value. -/
theorem optional [Present α] {o : Option α} (hfield : defaulted name (none : Option α) ∈ fields)
    (hslot : slotIfSome name o ∈ slots) : Reading fields slots (·.optional name) o := by
  cases o with
  | none => exact getDUnless true hfield hslot fun _ => rfl
  | some a => exact getD hfield hslot

end Reading

/-- A record whose fields are read one by one is lawful. -/
theorem LawfulWire.of_record [Wire α] [Laid α] {build : Members → Except Mismatch α}
    (slots : α → List (String × Option Value)) (hlayout : layout α = .record fields)
    (hdecode : ∀ v, decode v = Members.ofValue (fields.map (·.1)) v >>= build)
    (hencode : ∀ a, encode a = .object (writtenFields (slots a)))
    (hnames : ∀ a, (slots a).map (·.1) = fields.map (·.1)) (hnodup : (fields.map (·.1)).Nodup)
    (hplain : ∀ a, ∀ slot ∈ slots a, IsPlainSlot slot)
    (hreading : ∀ a, ∃ b, Reading fields (slots a) build b ∧ b = a) : LawfulWire α where
  decode_encode a := by
    have hdistinct : ((slots a).map (·.1)).Nodup := by rwa [hnames]
    have hall : (writtenFields (slots a)).filter (fun m => (fields.map (·.1)).contains m.1) =
        writtenFields (slots a) := by
      rw [List.filter_eq_self]
      intro m hm
      rw [List.contains_iff_mem, ← hnames a]
      exact mem_map_writtenFields (List.mem_map_of_mem hm)
    have hmembers : Members.ofValue (fields.map (·.1)) (.object (writtenFields (slots a))) =
        .ok ⟨writtenFields (slots a), false⟩ := by
      rw [ofValue_object_eq_ok_iff, hall]
      exact ⟨nodup_writtenFields hdistinct, rfl⟩
    obtain ⟨_, hread, rfl⟩ := hreading a
    rw [hdecode, hencode, hmembers]
    exact hread.reads hdistinct
  decode_step {v v' a} hstep hv := by
    obtain ⟨_, hread, -⟩ := hreading a
    rw [hlayout] at hstep
    rw [hdecode] at hv ⊢
    cases hm : Members.ofValue (fields.map (·.1)) v with
    | error mismatch =>
        rw [hm] at hv
        cases hv
    | ok m =>
        rw [hm] at hv
        obtain ⟨m', hm', halike⟩ := hstep.alike hnodup hm
        rw [hm']
        exact hread.same halike hv
  isPlain_encode a := by
    rw [hencode]
    refine .object fun m hm => ?_
    obtain ⟨slot, hslot, hvalue⟩ := List.mem_filterMap.mp hm
    obtain ⟨v, hv, rfl⟩ := Option.map_eq_some_iff.mp hvalue
    exact hplain a slot hslot v hv

end Reading

end ClusterKeeper
