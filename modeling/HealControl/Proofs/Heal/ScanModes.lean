import HealControl.Heal.Task
import HealControl.Proofs.Json.Codecs
import HealControl.Proofs.Json.Members

/-!
# Scan modes of newer servers

A scan mode that is none of the known ones is read as unknown, and nothing else of the options or
of the status around them depends on it. This holds for the modes that fit into a byte. Any other
integer fails the whole document.
-/
namespace HealControl.Heal

open HealControl.Json

/-! ## Integers as scan modes -/

theorem mismatch_ne_ok {α : Type} (wanted : Wanted) (d : Doc) (a : α) : mismatch wanted d ≠ .ok a := by
  intro h
  obtain ⟨_, _, h⟩ := bind_eq_ok_iff.mp h
  contradiction

theorem eq_of_integer?_ofInt {n i : Int} (h : (Number.ofInt n).integer? = some i) : i = n := by
  simp only [Number.ofInt, Number.integer?, valueOf_digits, List.isEmpty_nil, Option.isNone_none,
    and_self, if_true, decide_eq_true_eq] at h
  split at h <;> split at h <;> simp only [Option.some.injEq, reduceCtorEq] at h <;> omega

theorem decode_integer_eq_ok_iff (wanted : Wanted) {low high n i : Int} (hwords : InWords low high) :
    (Codec.integer wanted low high).decode (.number (.ofInt n)) = .ok i ↔
      (low ≤ n ∧ n ≤ high) ∧ i = n := by
  constructor
  · intro h
    cases hinteger : (Number.ofInt n).integer? with
    | none =>
      simp only [Codec.integer, hinteger] at h
      exact absurd h (mismatch_ne_ok _ _ _)
    | some j =>
      obtain rfl := eq_of_integer?_ofInt hinteger
      simp only [Codec.integer, hinteger] at h
      split at h
      · rename_i hrange
        exact ⟨hrange, (Except.ok.inj h).symm⟩
      · contradiction
  · rintro ⟨⟨hlow, hhigh⟩, rfl⟩
    exact decode_integer wanted hwords hlow hhigh

def ScanMode.ofInt (n : Int) : ScanMode :=
  if n = 1 then .normal else if n = 2 then .deep else .unknown

def IsByte (n : Int) : Prop :=
  0 ≤ n ∧ n ≤ 255

theorem ScanMode.ofByte_of_isByte {n : Int} (h : IsByte n) :
    ScanMode.ofByte (UInt8.ofNat n.toNat) = .ofInt n := by
  obtain ⟨hlow, hhigh⟩ := h
  -- Within a byte no number is taken for another one.
  have heq : ∀ k < 256, UInt8.ofNat n.toNat = UInt8.ofNat k ↔ n = k := by
    intro k hk
    rw [← UInt8.toNat_inj, UInt8.toNat_ofNat', UInt8.toNat_ofNat']
    omega
  have hone : UInt8.ofNat n.toNat = 1 ↔ n = 1 := heq 1 (by decide)
  have htwo : UInt8.ofNat n.toNat = 2 ↔ n = 2 := heq 2 (by decide)
  simp only [ScanMode.ofByte, ScanMode.ofInt, hone, htwo]

theorem ScanMode.decode_ofInt_eq_ok_iff {n : Int} {mode : ScanMode} :
    ScanMode.codec.decode (.number (.ofInt n)) = .ok mode ↔ IsByte n ∧ mode = .ofInt n := by
  change Except.map _ (Except.map _ _) = _ ↔ _
  rw [map_eq_ok_iff]
  constructor
  · rintro ⟨byte, hbyte, rfl⟩
    obtain ⟨i, hi, rfl⟩ := map_eq_ok_iff.mp hbyte
    obtain ⟨hrange, rfl⟩ := (decode_integer_eq_ok_iff .byte ⟨by decide, by decide⟩).mp hi
    exact ⟨hrange, ofByte_of_isByte hrange⟩
  · rintro ⟨hrange, rfl⟩
    have hi := (decode_integer_eq_ok_iff (i := n) .byte ⟨by decide, by decide⟩).mpr ⟨hrange, rfl⟩
    exact ⟨_, map_eq_ok_iff.mpr ⟨n, hi, rfl⟩, ofByte_of_isByte hrange⟩

/-! ## The scan mode of options and of a status -/

def HealOptions.scanModeMember :
    HealOptions.schema.Member (.optional "scanMode" ScanMode.codec .unknown) where
  place := .there (.there (.there (.there .here)))
  first := by simp [Field.In.First, Field.optional]
  get o := o.scanMode
  set mode o := { o with scanMode := mode }
  get_ofRow _ := rfl
  set_ofRow _ _ := rfl

def TaskStatus.settingsMember :
    TaskStatus.schema.Member (.optional "settings" HealOptions.schema.codec default) where
  place := .there (.there (.there .here))
  first := by simp [Field.In.First, Field.optional, Field.required]
  get s := s.settings
  set options s := { s with settings := options }
  get_ofRow _ := rfl
  set_ofRow _ _ := rfl

/-- Options of which the second ones have the scan mode `n`, and that are the same otherwise. The first
ones may have any scan mode, or none. -/
def ScanModeGiven (n : Int) (d d' : Doc) : Prop :=
  ∃ x, DifferAt HealOptions.scanModeMember.place x (some (.number (.ofInt n))) d d'

def SettingsScanModeGiven (n : Int) : Doc → Doc → Prop :=
  TaskStatus.settingsMember.Differs (ScanModeGiven n)

theorem HealOptions.decode_of_scanModeGiven {n : Int} {d d' : Doc} (h : ScanModeGiven n d d')
    {o : HealOptions} (ho : schema.codec.decode d = .ok o) (o' : HealOptions) :
    schema.codec.decode d' = .ok o' ↔ IsByte n ∧ o' = { o with scanMode := .ofInt n } := by
  obtain ⟨x, hd⟩ := h
  obtain ⟨-, hothers⟩ := decode_of_differAt scanModeMember hd ho
  refine (hothers o').trans ⟨?_, ?_⟩
  · rintro ⟨mode, hmode, rfl⟩
    obtain ⟨hbyte, rfl⟩ := ScanMode.decode_ofInt_eq_ok_iff.mp hmode
    exact ⟨hbyte, rfl⟩
  · rintro ⟨hbyte, rfl⟩
    exact ⟨_, ScanMode.decode_ofInt_eq_ok_iff.mpr ⟨hbyte, rfl⟩, rfl⟩

theorem TaskStatus.decode_of_settingsScanModeGiven {n : Int} {d d' : Doc}
    (h : SettingsScanModeGiven n d d') {s : TaskStatus} (hs : schema.codec.decode d = .ok s)
    (s' : TaskStatus) :
    schema.codec.decode d' = .ok s' ↔
      IsByte n ∧ s' = { s with settings := { s.settings with scanMode := .ofInt n } } := by
  obtain ⟨x, x', hx, hd⟩ := h
  obtain ⟨hsettings, hothers⟩ := decode_of_differAt settingsMember hd hs
  refine (hothers s').trans ⟨?_, ?_⟩
  · rintro ⟨options, hoptions, rfl⟩
    obtain ⟨hbyte, rfl⟩ := (HealOptions.decode_of_scanModeGiven hx hsettings options).mp hoptions
    exact ⟨hbyte, rfl⟩
  · rintro ⟨hbyte, rfl⟩
    exact ⟨_, (HealOptions.decode_of_scanModeGiven hx hsettings _).mpr ⟨hbyte, rfl⟩, rfl⟩

/-- With any other scan mode options and statuses are read if and only if it fits into a byte, and
nothing else of them changes. -/
theorem ofBytes_of_scanModeGiven (n : Int) (bytes bytes' : List UInt8) :
    (∀ o, HealOptions.schema.codec.ofBytes bytes = .ok o →
      Rewritten (ScanModeGiven n) bytes bytes' →
        ∀ o', HealOptions.schema.codec.ofBytes bytes' = .ok o' ↔
          IsByte n ∧ o' = { o with scanMode := .ofInt n }) ∧
    (∀ s, TaskStatus.schema.codec.ofBytes bytes = .ok s →
      Rewritten (SettingsScanModeGiven n) bytes bytes' →
        ∀ s', TaskStatus.schema.codec.ofBytes bytes' = .ok s' ↔
          IsByte n ∧ s' = { s with settings := { s.settings with scanMode := .ofInt n } }) := by
  constructor
  · intro o ho hrewritten o'
    obtain ⟨d, d', hd, ho, hbytes⟩ := hrewritten.exists_decode ho
    rw [hbytes]
    exact HealOptions.decode_of_scanModeGiven hd ho o'
  · intro s hs hrewritten s'
    obtain ⟨d, d', hd, hs, hbytes⟩ := hrewritten.exists_decode hs
    rw [hbytes]
    exact TaskStatus.decode_of_settingsScanModeGiven hd hs s'

def optionsValue (mode : List (String × Value)) : Value :=
  .object (("recursive", .bool true) :: mode)

def statusValue (options : Value) : Value :=
  .object [("summary", .text "running"), ("settings", options)]

def recursiveIn (mode : ScanMode) : HealOptions :=
  { (default : HealOptions) with recursive := true, scanMode := mode }

def runningIn (mode : ScanMode) : TaskStatus :=
  { (default : TaskStatus) with summary := "running", settings := recursiveIn mode }

theorem scanModeGiven_optionsValue (n : Int) :
    ScanModeGiven n (optionsValue []).doc (optionsValue [("scanMode", .int n)]).doc :=
  ⟨none, differAt_object_absent (by decide) (.int n)⟩

theorem settingsScanModeGiven_statusValue (n : Int) :
    SettingsScanModeGiven n (statusValue (optionsValue [])).doc
      (statusValue (optionsValue [("scanMode", .int n)])).doc :=
  ⟨_, _, scanModeGiven_optionsValue n, differAt_object [("summary", .text "running")] [] _ _⟩

theorem ofBytes_statusValue : TaskStatus.schema.codec.ofBytes
    (statusValue (optionsValue [])).bytes = .ok (runningIn .unknown) := by
  decide +kernel

theorem ofBytes_of_scanModeGiven_deep :
    HealOptions.schema.codec.ofBytes (optionsValue [("scanMode", .int 2)]).bytes =
        .ok (recursiveIn .deep) ∧
      TaskStatus.schema.codec.ofBytes (statusValue (optionsValue [("scanMode", .int 2)])).bytes =
        .ok (runningIn .deep) := by
  have hbyte : IsByte 2 := ⟨by decide, by decide⟩
  have hoptions := (ofBytes_of_scanModeGiven 2 _ _).1 (recursiveIn .unknown) (by decide +kernel)
    (rewritten_bytes (scanModeGiven_optionsValue 2))
  have hstatus := (ofBytes_of_scanModeGiven 2 _ _).2 _ ofBytes_statusValue
    (rewritten_bytes (settingsScanModeGiven_statusValue 2))
  exact ⟨(hoptions _).mpr ⟨hbyte, rfl⟩, (hstatus _).mpr ⟨hbyte, rfl⟩⟩

/-- A scan mode of more than a byte fails the status that it stands in. -/
theorem scanModeGiven_256_fails :
    TaskStatus.schema.codec.ofBytes (statusValue (optionsValue [])).bytes =
        .ok (runningIn .unknown) ∧
      Rewritten (SettingsScanModeGiven 256) (statusValue (optionsValue [])).bytes
        (statusValue (optionsValue [("scanMode", .int 256)])).bytes ∧
      TaskStatus.schema.codec.ofBytes (statusValue (optionsValue [("scanMode", .int 256)])).bytes =
        .error (.unfit (.wrongValue 256 .byte)) :=
  ⟨ofBytes_statusValue, rewritten_bytes (settingsScanModeGiven_statusValue 256), by decide +kernel⟩

end HealControl.Heal
