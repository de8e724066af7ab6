import AlertService.Proofs.Except
import AlertService.Proofs.Uuid.Spelling
import AlertService.Store.Accounts

/-!
# What is written into columns is read from them

* `Kind.readFields_ofOwned`: the fields of a row are read as they were written.
* `Store.draftFields_of_not_stray`: so are those of a draft, unless its row was changed from outside.
-/

namespace AlertService

namespace Cell

variable {α : Type} {index : Nat} {column : String}

theorem readId_ofId (u : Uuid) : readId index column (ofId u) = .ok u := by
  simp only [readId, ofId, readText, bind, Except.bind, Uuid.parse_text]
  rfl

theorem readInteger_ofInt64 (i : Int64) : readInteger index column (.integer i.toInt) = .ok i :=
  congrArg Except.ok (Int64.ofInt_toInt i)

theorem readBool_ofBool (b : Bool) : readBool index column (ofBool b) = .ok b := by
  cases b <;> rfl

/-- Nothing is told from what is written of a value. -/
theorem readOption_ofOption {read : Nat → String → Cell → Except EngineFault α} {f : α → Cell}
    (hnull : ∀ a, f a ≠ .null) (hread : ∀ a, read index column (f a) = .ok a) (x : Option α) :
    readOption read index column (ofOption f x) = .ok x := by
  cases x with
  | none => rfl
  | some a =>
    have hvalue : readOption read index column (f a) = (read index column (f a)).map some := by
      cases h : f a with
      | null => exact absurd h (hnull a)
      | _ => rfl
    exact hvalue.trans (by rw [hread a]; rfl)

end Cell

open Cell

/-- The fields of a row are read as they were written. -/
theorem Kind.readFields_ofOwned {k : Kind} (row : Owned k.Fields) (idColumn : String) :
    k.readFields ((k.header idColumn).zip (ofOwned row)) 2 = .ok row.fields := by
  have htext : ∀ index column (x : Option String),
      readOption readText index column (ofOption .text x) = .ok x :=
    fun _ _ => readOption_ofOption (fun _ => nofun) fun _ => rfl
  have hchat : ∀ index column (x : Option Int64),
      readOption readInteger index column (ofOption (fun i => .integer i.toInt) x) = .ok x :=
    fun _ _ => readOption_ofOption (fun _ => nofun) readInteger_ofInt64
  have hid : ∀ index column (x : Option Uuid),
      readOption readId index column (ofOption ofId x) = .ok x :=
    fun _ _ => readOption_ofOption (fun _ => nofun) readId_ofId
  cases k <;>
    simp [readFields, header, columns, ofOwned, ofFields, readAt, readText, readBool_ofBool, htext,
      hchat, hid, bind, Except.bind, pure, Except.pure]

namespace Store

theorem draftFields_of_not_stray {k : Kind} {d : Draft k.Fields} (h : d.stray = none) :
    draftFields k d = .ok d.fields := by
  rw [draftFields, ofDraft, h]
  exact mapError_eq_ok.mpr (Kind.readFields_ofOwned d.toOwned _)

end Store

end AlertService
