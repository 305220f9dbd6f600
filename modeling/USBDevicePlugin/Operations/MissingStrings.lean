import Mathlib.Tactic.FinCases
import USBDevicePlugin.Operations.DeviceInfo

/-!
# Devices without strings

A device need not have a serial number, a manufacturer or a product, and one that has may fail to
return it.  Such a string is left as it was.  Whether it costs the caller the rest of the description
depends on the table of languages: the branch for tables with more than one entry returns the status of
the serial number.

* `Missing` — a string that the device does not have or does not return.
* **`getDeviceInfo_missingStrings_iff`** — when a missing string does no harm.
-/

namespace Usb

open Interaction

/-! ## The three strings -/

/-- The strings of a device. -/
inductive StringField
  | serialNumber
  | manufacturer
  | product
  deriving DecidableEq, Repr

namespace StringField

/-- Where the descriptor says the string is. -/
def index (desc : DeviceDescriptor) : StringField → UInt8
  | serialNumber => desc.iSerialNumber
  | manufacturer => desc.iManufacturer
  | product => desc.iProduct

/-- Where the result has it. -/
def text (productInfo : USBProductInfo) : StringField → CxxString
  | serialNumber => productInfo.serialNumber
  | manufacturer => productInfo.manufacturer
  | product => productInfo.product

end StringField

/-- The string is read at no time and in no language: the device has none, which is an index of zero,
or it does not return it. -/
def Missing (env : Env) (d : Device) (index : UInt8) : Prop :=
  ∀ languageId t, ¬ StringRead env d languageId index t

lemma missing_zero (env : Env) (d : Device) : Missing env d 0 := fun _ _ h => h.1 rfl

/-! ## A missing string is left as it was -/

lemma StringResult.text_of_not_read {env : Env} {d : Device} {languageId : UInt16} {index : UInt8}
    {text : CxxString} {t : ℕ} {s : DriverState} {r : Result Call DriverState (Status × CxxString)}
    (h : StringResult env d languageId index text t s r)
    (hread : ¬ StringRead env d languageId index t) : r.value.2 = text := by
  have hstatus := fun hnone => hread (h.status.mp hnone)
  cases h with
  | absent hindex => rfl
  | refused hindex hreply hascii => rfl
  | ascii hindex hreply hascii => exact absurd rfl hstatus
  | malformed hindex hreply hshape => rfl
  | decoded hindex hreply hshape => exact absurd rfl hstatus

section Missing

variable {env : Env} {d : Device} {desc : DeviceDescriptor}

lemma Missing.value {index : UInt8} (h : Missing env d index) (languageId : UInt16)
    (text : CxxString) (t : ℕ) (s : DriverState) :
    ((getUSBDescriptorValue env d languageId index text).run t s).value.2 = text :=
  (getUSBDescriptorValue_result env d languageId index text t s).text_of_not_read (h languageId t)

lemma StoredFrom.eq_of_missing {languageId : UInt16} {index : UInt8} {before after : CxxString}
    {calls : List Call} (h : StoredFrom env d languageId index before after calls)
    (hmissing : Missing env d index) : after = before := by
  obtain ⟨-, t, s, rfl⟩ := h
  exact hmissing.value languageId before t s

/-- In a product info that is filled in. -/
lemma FilledIn.text_eq {languageId : UInt16} {before after : USBProductInfo} {calls : List Call}
    (h : FilledIn env d desc languageId before after calls) {field : StringField}
    (hmissing : Missing env d (field.index desc)) : field.text after = field.text before := by
  cases field with
  | serialNumber => exact h.serialNumber.eq_of_missing hmissing
  | manufacturer => exact h.manufacturer.eq_of_missing hmissing
  | product => exact h.product.eq_of_missing hmissing

/-- In the branch that decodes the languages. -/
lemma decodeLanguages_text {field : StringField} (hmissing : Missing env d (field.index desc))
    (langBuff : List UInt8) (info : USBDeviceInfo) (t : ℕ) (s : DriverState) (k : Fin 4) :
    field.text (((decodeLanguages env d desc langBuff info).run t s).value.2.productInfo k) =
      field.text (info.productInfo k) := by
  let numLanguageIds := UInt8.ofInt ((((langBuff.getD 0 0).toNat : Int) - 2).tdiv 2)
  have hloop := languageLoop_languagesRead env d desc langBuff numLanguageIds.toNat 0
    { info with numLanguageIds } t s
  simp only [decodeLanguages, List.range_eq_range', Prog.bind_run, Prog.pure_run]
  rw [Nat.zero_add] at hloop
  by_cases hk : (k : ℕ) < numLanguageIds.toNat
  · exact (hloop.filledIn k (Nat.zero_le _) hk).text_eq hmissing
  · exact congrArg (fun productInfo => field.text productInfo)
      (hloop.unchanged k (Or.inr (not_lt.mp hk)))

/-- In the branch that does not. -/
lemma readWithoutLanguage_text {field : StringField} (hmissing : Missing env d (field.index desc))
    (info : USBDeviceInfo) (t : ℕ) (s : DriverState) (k : Fin 4) :
    field.text (((readWithoutLanguage env d desc info).run t s).value.2.productInfo k) =
      field.text (info.productInfo k) := by
  simp only [readWithoutLanguage, Prog.bind_run, Prog.pure_run]
  fin_cases k
  · cases field with
    | serialNumber => exact hmissing.value ..
    | manufacturer => exact hmissing.value ..
    | product => exact hmissing.value ..
  all_goals rfl

/-- So in all four product infos, whatever the device returns. -/
lemma getUSBExtInfoStructFromDeviceDescriptor_text {field : StringField}
    (hmissing : Missing env d (field.index desc)) (info : USBDeviceInfo) (t : ℕ) (s : DriverState)
    (k : Fin 4) :
    field.text (((getUSBExtInfoStructFromDeviceDescriptor env d desc info).run t
      s).value.2.productInfo k) = field.text (info.productInfo k) :=
  getUSBExtInfoStructFromDeviceDescriptor_induct
    (P := fun info' => field.text (info'.productInfo k) = field.text (info.productInfo k)) rfl
    (fun t s => readWithoutLanguage_text hmissing info t s k)
    (fun langBuff t s => decodeLanguages_text hmissing langBuff info t s k) t s

lemma getUSBDeviceInfoStructFromDeviceDescriptor_text {t : ℕ} {field : StringField}
    (hdesc : (env t).getDeviceDescriptor d = .ok desc)
    (hmissing : Missing env d (field.index desc)) (info : USBDeviceInfo) (s : DriverState)
    (k : Fin 4) :
    field.text (((getUSBDeviceInfoStructFromDeviceDescriptor env d info).run t
      s).value.2.productInfo k) = field.text (info.productInfo k) := by
  simp only [getUSBDeviceInfoStructFromDeviceDescriptor, libusbGetDeviceDescriptor, Prog.bind_run,
    Prog.ask_run, hdesc]
  rw [getUSBExtInfoStructFromDeviceDescriptor_text hmissing]
  fin_cases k <;> rfl

end Missing

lemma locateDevice_productInfo (devs : List Device) (d : Device) (info : USBDeviceInfo) (k : Fin 4) :
    (locateDevice devs d info).productInfo k = info.productInfo k := by
  fin_cases k <;> rfl

/-- A fresh structure has no strings. -/
lemma text_fresh (field : StringField) (k : Fin 4) :
    field.text (({} : USBDeviceInfo).productInfo k) = [] := by
  fin_cases k <;> cases field <;> rfl

/-! ## The status -/

/-- The instant at which a call of `GetDeviceInfo` on a fresh structure, begun at `t`, opens the
device to read its strings. -/
def stringsAt (env : Env) (d : Device) (desc : DeviceDescriptor) (t : ℕ) : ℕ :=
  activeConfigAt env d desc {} (t + 2) + 1

/-- The table decides whether the serial number matters. -/
lemma stringsRead_iff {env : Env} {d : Device} {t : ℕ} (hopen : (env t).openDevice d = none)
    {table : LanguageTable} (htable : (env (t + 1)).getStringDescriptor d 0 0 = table.reply)
    (desc : DeviceDescriptor) :
    StringsRead env d desc t ↔ table.ids.length = 1 ∨
      StringRead env d 0 desc.iSerialNumber (serialNumberAt env d desc (t + 2)) := by
  rw [StringsRead, htable, table.long_iff, ne_eq, ← or_iff_not_imp_left]
  exact and_iff_right hopen

/-- A call on a fresh structure reports no text for a missing string, whether it succeeds or not. -/
lemma getDeviceInfo_text {env : Env} {t : ℕ} (hdistinct : Distinct (env (t + 1)).devices)
    {d : Device} (hd : d ∈ (env (t + 1)).devices) {desc : DeviceDescriptor}
    (hdesc : (env (t + 2)).getDeviceDescriptor d = .ok desc) {field : StringField}
    (hmissing : Missing env d (field.index desc)) (s : DriverState) (k : Fin 4) :
    field.text (((getDeviceInfo env (usbDeviceName d) {}).run t s).value.2.productInfo k) = [] := by
  have htext := getUSBDeviceInfoStructFromDeviceDescriptor_text hdesc hmissing {} s k
  rw [getDeviceInfo_run hdistinct hd]
  dsimp only
  rw [apply_ite fun info : USBDeviceInfo => info.productInfo k, locateDevice_productInfo, ite_self,
    htext, text_fresh]

/-- **A missing string does no harm exactly when the device has one language, or returns its serial
number without one.**  For a device that is listed, can be read and opened, and has a well-formed table
of languages: the call then succeeds, and the missing strings are empty. -/
theorem getDeviceInfo_missingStrings_iff {env : Env} {t : ℕ}
    (hdistinct : Distinct (env (t + 1)).devices) {d : Device} (hd : d ∈ (env (t + 1)).devices)
    {desc : DeviceDescriptor} (hdesc : (env (t + 2)).getDeviceDescriptor d = .ok desc)
    (hopen : (env (stringsAt env d desc t)).openDevice d = none) {table : LanguageTable}
    (htable : (env (stringsAt env d desc t + 1)).getStringDescriptor d 0 0 = table.reply)
    (s : DriverState) :
    (let r := (getDeviceInfo env (usbDeviceName d) {}).run t s
     r.value.1 = .errorNone ∧ ∀ field : StringField, Missing env d (field.index desc) →
       ∀ k, field.text (r.value.2.productInfo k) = []) ↔
      table.ids.length = 1 ∨
        StringRead env d 0 desc.iSerialNumber
          (serialNumberAt env d desc (stringsAt env d desc t + 2)) := by
  have hstatus := getDeviceInfo_status hdistinct hd {} s
  have hread : InfoRead env d ({} : USBDeviceInfo).device (t + 2) ↔
      StringsRead env d desc (stringsAt env d desc t) := by
    simp only [InfoRead, hdesc, Except.ok.injEq, exists_eq_left']
    rfl
  rw [← stringsRead_iff hopen htable, ← hread, ← hstatus]
  constructor
  · exact fun h => h.1
  · exact fun h => ⟨h, fun field hmissing k => getDeviceInfo_text hdistinct hd hdesc hmissing s k⟩

/-- The sample device without a serial number, and with a given table of languages. -/
def sampleUnnumbered (table : LanguageTable) : Outcomes :=
  { sampleOutcomes with
    getDeviceDescriptor := fun _ => .ok { sampleDescriptor with iSerialNumber := 0 }
    getStringDescriptor := fun d index languageId =>
      if index = 0 then table.reply else sampleOutcomes.getStringDescriptor d index languageId }

/-- The condition met: English only.  The device has no serial number and none is reported. -/
theorem getDeviceInfo_missingStrings_english :
    let r := (getDeviceInfo (sampleUnnumbered ⟨[0x0409], by decide, by decide⟩).steady
      "001/005".toList {}).run 0 fun _ _ => false
    r.value.1 = .errorNone ∧ ∀ k, (r.value.2.productInfo k).serialNumber = [] := by
  have hdistinct : Distinct ((sampleUnnumbered ⟨[0x0409], by decide, by decide⟩).steady
      (0 + 1)).devices := by decide
  have hinfo := (getDeviceInfo_missingStrings_iff hdistinct (d := sampleDisk)
    (List.mem_singleton.mpr rfl) rfl rfl rfl fun _ _ => false).mpr (Or.inl rfl)
  exact ⟨hinfo.1, hinfo.2 .serialNumber (missing_zero _ _)⟩

/-- **With a second language, a missing serial number is an error.**  The descriptor can be read, the
device opens, its table is well formed, and the manufacturer and the product are there. -/
theorem getDeviceInfo_unnumbered_sampleLanguages :
    let o := sampleUnnumbered sampleLanguages
    (∃ desc, o.getDeviceDescriptor sampleDisk = .ok desc ∧ desc.iSerialNumber = 0) ∧
      o.openDevice sampleDisk = none ∧
      o.getStringDescriptor sampleDisk 0 0 = sampleLanguages.reply ∧
      ((getDeviceInfo o.steady (usbDeviceName sampleDisk) {}).run 0
        fun _ _ => false).value.1 = .errorGeneral := by
  refine ⟨⟨_, rfl, rfl⟩, rfl, rfl, ?_⟩
  decide

end Usb
