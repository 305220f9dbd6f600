import USBDevicePlugin.Device.Info
import USBDevicePlugin.Device.StringDescriptors

/-!
# What reading the strings does to a structure

Languages and strings are read into the structure that the caller supplies.  Some of its fields are
overwritten, some appended to and the others left alone.  Which, and with what, is decided by the
replies of the device alone.

* `StringEdit`, `ProductEdit`, `StringsEdit` — what becomes of one text, of the texts in one language,
  and of all of them.
* **`getUSBExtInfoStructFromDeviceDescriptor_edit`** — the code does what the replies say, whatever
  structure it is given.
* **`StringsEdit.apply_eq_apply_iff`** — when two structures come out alike.
-/

namespace Usb

open Interaction LittleEndian

/-! ## One string -/

/-- What becomes of a text into which a string is read. -/
inductive StringEdit
  | keep
  | append (text : CxxString)
  | overwrite (text : CxxString)
  deriving DecidableEq, Repr

namespace StringEdit

def apply : StringEdit → CxxString → CxxString
  | keep, before => before
  | append text, before => before ++ text
  | overwrite text, _ => text

/-- Nothing is left of the text. -/
def Overwrites : StringEdit → Prop
  | overwrite _ => True
  | _ => False

instance : ∀ e : StringEdit, Decidable e.Overwrites
  | keep | append _ => isFalse id
  | overwrite _ => isTrue trivial

/-- Two texts come out alike: where the same is done to both, because it overwrites them or because
they were alike; otherwise they have to be compared. -/
def Alike (e₁ e₂ : StringEdit) (before₁ before₂ : CxxString) : Prop :=
  if e₁ = e₂ then e₁.Overwrites ∨ before₁ = before₂ else e₁.apply before₁ = e₂.apply before₂

instance (e₁ e₂ : StringEdit) (before₁ before₂ : CxxString) :
    Decidable (e₁.Alike e₂ before₁ before₂) :=
  inferInstanceAs (Decidable (if e₁ = e₂ then _ else _))

lemma apply_eq_apply_iff {e₁ e₂ : StringEdit} {before₁ before₂ : CxxString} :
    e₁.apply before₁ = e₂.apply before₂ ↔ e₁.Alike e₂ before₁ before₂ := by
  unfold Alike
  split_ifs with h
  · subst h
    cases e₁ <;> simp [apply, Overwrites]
  · exact Iff.rfl

end StringEdit

/-- The same for a number, which is replaced by another or kept. -/
def ValueAlike {α : Type} [DecidableEq α] (new₁ new₂ : Option α) (before₁ before₂ : α) : Prop :=
  if new₁ = new₂ then new₁.isSome ∨ before₁ = before₂ else new₁.getD before₁ = new₂.getD before₂

instance {α : Type} [DecidableEq α] (new₁ new₂ : Option α) (before₁ before₂ : α) :
    Decidable (ValueAlike new₁ new₂ before₁ before₂) :=
  inferInstanceAs (Decidable (if new₁ = new₂ then _ else _))

lemma getD_eq_getD_iff {α : Type} [DecidableEq α] {new₁ new₂ : Option α} {before₁ before₂ : α} :
    new₁.getD before₁ = new₂.getD before₂ ↔ ValueAlike new₁ new₂ before₁ before₂ := by
  unfold ValueAlike
  split_ifs with h
  · subst h
    cases new₁ <;> simp
  · exact Iff.rfl

section Replies

variable (env : Env) (d : Device)

/-- What the replies from `t` on come to: nothing without an index, without a reply, or if what arrives
is not a whole string descriptor; the characters of the descriptor, appended; or the ASCII string that
libusb makes of it, in place of the text. -/
def stringEdit (languageId : UInt16) (index : UInt8) (t : ℕ) : StringEdit :=
  let reply := (env t).getStringDescriptor d index languageId
  let ascii := (env (t + 1)).getStringDescriptorAscii d index
  let descBuf := writeBuffer zeroBuffer reply.data
  if index = 0 then .keep
  else if reply.retValue < 0 then
    if ascii.retValue < 0 then .keep
    else .overwrite (((writeBuffer descBuf ascii.data).takeWhile (· ≠ 0)).map
      fun b => Char.ofNat b.toNat)
  else if descBuf.getD 1 0 = dtString ∧ ((descBuf.getD 0 0).toNat : Int) ≤ reply.retValue then
    .append ((characterPositions descBuf).map fun i => narrow (word descBuf i))
  else .keep

lemma getUSBDescriptorValue_edit (languageId : UInt16) (index : UInt8) (text : CxxString) (t : ℕ)
    (s : DriverState) :
    ((getUSBDescriptorValue env d languageId index text).run t s).value.2 =
      (stringEdit env d languageId index t).apply text := by
  have hresult := getUSBDescriptorValue_result env d languageId index text t s
  generalize (getUSBDescriptorValue env d languageId index text).run t s = r at hresult
  unfold stringEdit
  cases hresult with
  | absent hindex => simp [hindex, StringEdit.apply]
  | refused hindex hreply hascii => simp [hindex, hreply, hascii, StringEdit.apply]
  | ascii hindex hreply hascii =>
      simp only [hindex, hreply, not_lt.mpr hascii, if_true, if_false, StringEdit.apply]
  | malformed hindex hreply hshape =>
      have hshape' : ¬ (_ ∧ _) := hshape
      simp only [hindex, not_lt.mpr hreply, if_false, if_neg hshape', StringEdit.apply]
  | decoded hindex hreply hshape =>
      have hshape' : _ ∧ _ := hshape
      simp only [hindex, not_lt.mpr hreply, if_false, if_pos hshape', StringEdit.apply,
        appendCharacters_eq]

end Replies

/-! ## One language -/

/-- What becomes of a product info. -/
structure ProductEdit where
  languageId : Option UInt16 := none
  serialNumber : StringEdit := .keep
  manufacturer : StringEdit := .keep
  product : StringEdit := .keep
  deriving DecidableEq, Repr

namespace ProductEdit

def apply (e : ProductEdit) (before : USBProductInfo) : USBProductInfo :=
  { languageId := e.languageId.getD before.languageId
    serialNumber := e.serialNumber.apply before.serialNumber
    manufacturer := e.manufacturer.apply before.manufacturer
    product := e.product.apply before.product }

lemma apply_empty (before : USBProductInfo) : ({} : ProductEdit).apply before = before := rfl

def Alike (e₁ e₂ : ProductEdit) (before₁ before₂ : USBProductInfo) : Prop :=
  ValueAlike e₁.languageId e₂.languageId before₁.languageId before₂.languageId ∧
    e₁.serialNumber.Alike e₂.serialNumber before₁.serialNumber before₂.serialNumber ∧
    e₁.manufacturer.Alike e₂.manufacturer before₁.manufacturer before₂.manufacturer ∧
    e₁.product.Alike e₂.product before₁.product before₂.product

instance (e₁ e₂ : ProductEdit) (before₁ before₂ : USBProductInfo) :
    Decidable (e₁.Alike e₂ before₁ before₂) :=
  inferInstanceAs (Decidable (_ ∧ _ ∧ _ ∧ _))

lemma apply_eq_apply_iff {e₁ e₂ : ProductEdit} {before₁ before₂ : USBProductInfo} :
    e₁.apply before₁ = e₂.apply before₂ ↔ e₁.Alike e₂ before₁ before₂ := by
  simp only [apply, USBProductInfo.mk.injEq, getD_eq_getD_iff, StringEdit.apply_eq_apply_iff, Alike]

end ProductEdit

section Replies

variable (env : Env) (d : Device) (desc : DeviceDescriptor)

/-- The instants of the strings of a language that is begun at `t`: the serial number is first. -/
def manufacturerAt (languageId : UInt16) (t : ℕ) : ℕ :=
  t + stringCalls env d languageId desc.iSerialNumber t

def productAt (languageId : UInt16) (t : ℕ) : ℕ :=
  let manufacturer := manufacturerAt env d desc languageId t
  manufacturer + stringCalls env d languageId desc.iManufacturer manufacturer

/-- The instant at which it is over. -/
def afterLanguage (languageId : UInt16) (t : ℕ) : ℕ :=
  let product := productAt env d desc languageId t
  product + stringCalls env d languageId desc.iProduct product

/-- What becomes of the product info. -/
def productEdit (languageId : UInt16) (t : ℕ) : ProductEdit where
  languageId := some languageId
  serialNumber := stringEdit env d languageId desc.iSerialNumber t
  manufacturer :=
    stringEdit env d languageId desc.iManufacturer (manufacturerAt env d desc languageId t)
  product := stringEdit env d languageId desc.iProduct (productAt env d desc languageId t)

lemma getUSBProductInfo_edit (langBuff : List UInt8) (devIndex : ℕ) (productInfo : USBProductInfo)
    (t : ℕ) (s : DriverState) :
    let r := (getUSBProductInfo env d desc langBuff devIndex productInfo).run t s
    r.value = (productEdit env d desc (word langBuff devIndex) t).apply productInfo ∧
      t + r.calls.length = afterLanguage env d desc (word langBuff devIndex) t := by
  simp only [getUSBProductInfo, Prog.bind_run, Prog.pure_run, List.append_nil, List.length_append,
    getUSBDescriptorValue_edit, (getUSBDescriptorValue_result _ _ _ _ _ _ _).calls_length,
    productEdit, afterLanguage, productAt, manufacturerAt, ProductEdit.apply, Option.getD_some,
    true_and, Nat.add_assoc]

/-- The instant at which a language is begun, if the first one is at `t`. -/
def languageAt (langBuff : List UInt8) (t : ℕ) : ℕ → ℕ
  | 0 => t
  | k + 1 => afterLanguage env d desc (word langBuff (2 + 2 * k)) (languageAt langBuff t k)

end Replies

/-! ## All of them -/

/-- What becomes of the count of languages and of the four product infos. -/
structure StringsEdit where
  numLanguageIds : Option UInt8
  productInfo : Fin 4 → ProductEdit

namespace StringsEdit

def apply (e : StringsEdit) (before : USBDeviceInfo) : USBDeviceInfo :=
  { before with
    numLanguageIds := e.numLanguageIds.getD before.numLanguageIds
    productInfo1 := (e.productInfo 0).apply before.productInfo1
    productInfo2 := (e.productInfo 1).apply before.productInfo2
    productInfo3 := (e.productInfo 2).apply before.productInfo3
    productInfo4 := (e.productInfo 3).apply before.productInfo4 }

def Alike (e₁ e₂ : StringsEdit) (before₁ before₂ : USBDeviceInfo) : Prop :=
  ValueAlike e₁.numLanguageIds e₂.numLanguageIds before₁.numLanguageIds before₂.numLanguageIds ∧
    ∀ k, (e₁.productInfo k).Alike (e₂.productInfo k) (before₁.productInfo k) (before₂.productInfo k)

instance (e₁ e₂ : StringsEdit) (before₁ before₂ : USBDeviceInfo) :
    Decidable (e₁.Alike e₂ before₁ before₂) :=
  inferInstanceAs (Decidable (_ ∧ ∀ _ : Fin 4, _))

end StringsEdit

section Replies

variable (env : Env) (d : Device) (desc : DeviceDescriptor)

/-- The first languages of a table that is decoded from `t` on. -/
def languagesEdit (langBuff : List UInt8) (t languages : ℕ) (k : Fin 4) : ProductEdit :=
  if (k : ℕ) < languages then
    productEdit env d desc (word langBuff (2 + 2 * k)) (languageAt env d desc langBuff t k)
  else {}

/-- The three strings that are asked for without a language. -/
def withoutLanguageEdit (t : ℕ) (k : Fin 4) : ProductEdit :=
  if k = 0 then
    { manufacturer := stringEdit env d 0 desc.iManufacturer t
      product := stringEdit env d 0 desc.iProduct (t + stringCalls env d 0 desc.iManufacturer t)
      serialNumber := stringEdit env d 0 desc.iSerialNumber (serialNumberAt env d desc t) }
  else {}

/-- What a device comes to that is opened at `t`. -/
def stringsEdit (t : ℕ) : StringsEdit :=
  let reply := (env (t + 1)).getStringDescriptor d 0 0
  let langBuff := writeBuffer zeroBuffer reply.data
  if 4 < reply.retValue then
    { numLanguageIds := none
      productInfo := withoutLanguageEdit env d desc (t + 2) }
  else
    let numLanguageIds := countFrom (langBuff.getD 0 0)
    { numLanguageIds := some numLanguageIds
      productInfo := languagesEdit env d desc langBuff (t + 2) numLanguageIds.toNat }

/-- One language more. -/
lemma languagesEdit_succ (langBuff : List UInt8) (t languages : ℕ) (k : Fin 4) :
    languagesEdit env d desc langBuff t (languages + 1) k =
      if (k : ℕ) = languages then
        productEdit env d desc (word langBuff (2 + 2 * languages))
          (languageAt env d desc langBuff t languages)
      else languagesEdit env d desc langBuff t languages k := by
  unfold languagesEdit
  by_cases hk : (k : ℕ) = languages
  · rw [if_pos hk, if_pos (by omega), hk]
  · rw [if_neg hk]
    exact if_congr (by omega) rfl rfl

lemma languageStep_edit (langBuff : List UInt8) (languages : ℕ) (info : USBDeviceInfo) (t t' : ℕ)
    (s : DriverState) (hstart : languages < 4 → t' = languageAt env d desc langBuff t languages) :
    let r := (languageStep env d desc langBuff languages
      ((⟨none, languagesEdit env d desc langBuff t languages⟩ : StringsEdit).apply info)).run t' s
    r.value =
        (⟨none, languagesEdit env d desc langBuff t (languages + 1)⟩ : StringsEdit).apply info ∧
      (languages < 4 → t' + r.calls.length = languageAt env d desc langBuff t (languages + 1)) := by
  have hedit := fun productInfo => getUSBProductInfo_edit env d desc langBuff (2 + 2 * languages)
    productInfo t' s
  match languages with
  | 0 | 1 | 2 | 3 =>
      have hnow := hstart (by decide)
      refine ⟨?_, fun _ => ?_⟩
      · simp [languageStep, StringsEdit.apply, languagesEdit, (hedit _).1, ProductEdit.apply_empty,
          ← hnow]
      · rw [languageAt, ← hnow]
        simpa [languageStep] using (hedit _).2
  | languages + 4 =>
      have hsame : languagesEdit env d desc langBuff t (languages + 4 + 1) =
          languagesEdit env d desc langBuff t (languages + 4) := by
        funext k
        rw [languagesEdit_succ, if_neg (by omega)]
      exact ⟨by rw [hsame]; rfl, fun h => absurd h (by omega)⟩

/-- The loop over the languages, by induction on how many there are. -/
lemma languageLoop_edit (langBuff : List UInt8) (info : USBDeviceInfo) (t : ℕ) (s : DriverState) :
    ∀ languages : ℕ,
      let r := ((List.range languages).foldlM
        (fun info languageCount => languageStep env d desc langBuff languageCount info) info).run t s
      r.value = (⟨none, languagesEdit env d desc langBuff t languages⟩ : StringsEdit).apply info ∧
        (languages ≤ 4 → t + r.calls.length = languageAt env d desc langBuff t languages)
  | 0 => by simp [StringsEdit.apply, languagesEdit, ProductEdit.apply_empty, languageAt]
  | languages + 1 => by
      obtain ⟨hvalue, hlength⟩ := languageLoop_edit langBuff info t s languages
      have hstep := fun s' => languageStep_edit env d desc langBuff languages info t _ s'
        fun hlt => hlength (by omega)
      rw [List.range_succ, Prog.foldlM_snoc_run]
      simp only [hvalue, List.length_append]
      refine ⟨(hstep _).1, fun hle => ?_⟩
      rw [← Nat.add_assoc]
      exact (hstep _).2 (by omega)

/-- **The replies decide what becomes of the structure**, and not what is in it. -/
theorem getUSBExtInfoStructFromDeviceDescriptor_edit {t : ℕ} (hopen : (env t).openDevice d = none)
    (info : USBDeviceInfo) (s : DriverState) :
    ((getUSBExtInfoStructFromDeviceDescriptor env d desc info).run t s).value.2 =
      (stringsEdit env d desc t).apply info := by
  rw [getUSBExtInfoStructFromDeviceDescriptor_run hopen, stringsEdit]
  dsimp only
  split_ifs
  · simp only [readWithoutLanguage, Prog.bind_run, Prog.pure_run, getUSBDescriptorValue_edit,
      (getUSBDescriptorValue_result _ _ _ _ _ _ _).calls_length]
    simp [StringsEdit.apply, withoutLanguageEdit, ProductEdit.apply, StringEdit.apply, serialNumberAt]
  · simp only [decodeLanguages, Prog.bind_run, Prog.pure_run]
    refine (languageLoop_edit env d desc _ _ _ s _).1.trans ?_
    rfl

end Replies

/-! ## Two structures -/

/-- **Two structures come out alike** exactly when they agree in all that is not read here, and what is
read comes out alike item by item. -/
theorem StringsEdit.apply_eq_apply_iff {e₁ e₂ : StringsEdit} {before₁ before₂ : USBDeviceInfo} :
    e₁.apply before₁ = e₂.apply before₂ ↔
      before₁.withoutStrings = before₂.withoutStrings ∧ e₁.Alike e₂ before₁ before₂ := by
  have hfour : ∀ P : Fin 4 → Prop, (∀ k, P k) ↔ P 0 ∧ P 1 ∧ P 2 ∧ P 3 := fun P => by
    simp [Fin.forall_fin_succ]
  simp only [apply, Alike, USBDeviceInfo.mk.injEq, USBDeviceInfo.withoutStrings, hfour,
    USBDeviceInfo.productInfo, getD_eq_getD_iff, ProductEdit.apply_eq_apply_iff]
  tauto

end Usb
