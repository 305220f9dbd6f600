import USBDevicePlugin.Core.LittleEndian
import USBDevicePlugin.Device.Struct

/-!
# Languages and strings

`getUSBExtInfoStructFromDeviceDescriptor` completes a `USBDeviceInfo` with what the device says
about itself in words: the languages it supports, from string descriptor 0, and for each of the
first four languages the serial number, the manufacturer and the product.

* `StringDescriptor`, `LanguageTable` — a well-formed string descriptor, and the one with index 0.
* **`getUSBExtInfoStructFromDeviceDescriptor_status`** — what the status depends on.
* **`languagesDecoded_iff`** — the table is decoded completely exactly when it has one language.
  The test that selects the error branch rejects every longer one.
-/

namespace Usb

open Interaction LittleEndian

/-! ## The code -/

/-- What a request leaves in the caller's 256 bytes. -/
def writeBuffer (descBuf data : List UInt8) : List UInt8 :=
  (data ++ descBuf.drop data.length).take 256

/-- A buffer set to zero. -/
def zeroBuffer : List UInt8 := List.replicate 256 0

/-- The loop that copies the characters of a string descriptor.  Only the low byte of a character
is kept, below `0x80` and above: `std::string += wchar_t` narrows. -/
def appendCharacters (descBuf : List UInt8) (stringDescriptor : CxxString) : CxxString :=
  (List.range' 2 (((descBuf.getD 0 0).toNat - 1) / 2) 2).foldl
    (fun stringDescriptor i =>
      stringDescriptor ++ [Char.ofNat (word descBuf i).toUInt8.toNat])
    stringDescriptor

/-- Read one string of a device; index 0 stands for a string the device does not have. -/
def getUSBDescriptorValue (env : Env) (d : Device) (languageId : UInt16) (descriptorIndex : UInt8)
    (stringDescriptor : CxxString) : Plugin (Status × CxxString) :=
  if descriptorIndex = 0 then pure (.errorGeneral, stringDescriptor)
  else do
    let reply ← libusbGetStringDescriptor env d descriptorIndex languageId
    let descBuf := writeBuffer zeroBuffer reply.data
    if reply.retValue < 0 then do
      let ascii ← libusbGetStringDescriptorAscii env d descriptorIndex
      if ascii.retValue < 0 then pure (.errorGeneral, stringDescriptor)
      else
        -- the buffer is not cleared in between, and read up to its first zero byte
        let text := (writeBuffer descBuf ascii.data).takeWhile (· ≠ 0)
        pure (.errorNone, text.map fun b => Char.ofNat b.toNat)
    else if descBuf.getD 1 0 ≠ dtString then pure (.errorGeneral, stringDescriptor)
    else if ((descBuf.getD 0 0).toNat : Int) > reply.retValue then
      pure (.errorGeneral, stringDescriptor)
    else pure (.errorNone, appendCharacters descBuf stringDescriptor)

/-- The block of one language: its id, and the three strings in it. -/
def getUSBProductInfo (env : Env) (d : Device) (desc : DeviceDescriptor) (langBuff : List UInt8)
    (devIndex : ℕ) (productInfo : USBProductInfo) : Plugin USBProductInfo := do
  let languageId := word langBuff devIndex
  let serialNumber ←
    getUSBDescriptorValue env d languageId desc.iSerialNumber productInfo.serialNumber
  let manufacturer ←
    getUSBDescriptorValue env d languageId desc.iManufacturer productInfo.manufacturer
  let product ← getUSBDescriptorValue env d languageId desc.iProduct productInfo.product
  pure
    { languageId
      serialNumber := serialNumber.2
      manufacturer := manufacturer.2
      product := product.2 }

/-- The body of the loop over the languages: there is room for four. -/
def languageStep (env : Env) (d : Device) (desc : DeviceDescriptor) (langBuff : List UInt8)
    (languageCount : ℕ) (info : USBDeviceInfo) : Plugin USBDeviceInfo :=
  let devIndex := 2 + 2 * languageCount
  match languageCount with
  | 0 => do
      let productInfo ← getUSBProductInfo env d desc langBuff devIndex info.productInfo1
      pure { info with productInfo1 := productInfo }
  | 1 => do
      let productInfo ← getUSBProductInfo env d desc langBuff devIndex info.productInfo2
      pure { info with productInfo2 := productInfo }
  | 2 => do
      let productInfo ← getUSBProductInfo env d desc langBuff devIndex info.productInfo3
      pure { info with productInfo3 := productInfo }
  | 3 => do
      let productInfo ← getUSBProductInfo env d desc langBuff devIndex info.productInfo4
      pure { info with productInfo4 := productInfo }
  | _ => pure info

/-- The branch that decodes the language table. -/
def decodeLanguages (env : Env) (d : Device) (desc : DeviceDescriptor) (langBuff : List UInt8)
    (info : USBDeviceInfo) : Plugin (Status × USBDeviceInfo) := do
  let numLanguageIds := UInt8.ofInt ((((langBuff.getD 0 0).toNat : Int) - 2).tdiv 2)
  let info ← (List.range numLanguageIds.toNat).foldlM
    (fun info languageCount => languageStep env d desc langBuff languageCount info)
    { info with numLanguageIds }
  pure (.errorNone, info)

/-- The branch taken when string descriptor 0 is longer than four bytes: three strings in language
0, and the status of the last. -/
def readWithoutLanguage (env : Env) (d : Device) (desc : DeviceDescriptor) (info : USBDeviceInfo) :
    Plugin (Status × USBDeviceInfo) := do
  let manufacturer ←
    getUSBDescriptorValue env d 0 desc.iManufacturer info.productInfo1.manufacturer
  let product ← getUSBDescriptorValue env d 0 desc.iProduct info.productInfo1.product
  let serialNumber ←
    getUSBDescriptorValue env d 0 desc.iSerialNumber info.productInfo1.serialNumber
  pure (serialNumber.1,
    { info with
      productInfo1 :=
        { info.productInfo1 with
          manufacturer := manufacturer.2
          product := product.2
          serialNumber := serialNumber.2 } })

/-- Complete a `USBDeviceInfo` with the languages and strings of the device. -/
def getUSBExtInfoStructFromDeviceDescriptor (env : Env) (d : Device) (desc : DeviceDescriptor)
    (info : USBDeviceInfo) : Plugin (Status × USBDeviceInfo) := do
  match ← libusbOpen env d with
  | some _ => pure (.errorGeneral, info)
  | none => do
      let reply ← libusbGetStringDescriptor env d 0 0
      let langBuff := writeBuffer zeroBuffer reply.data
      let r ←
        if 4 < reply.retValue then readWithoutLanguage env d desc info
        else decodeLanguages env d desc langBuff info
      libusbClose d
      pure r

/-- A device that opens: one of the two branches, between the request for the table and the closing
of the device. -/
lemma getUSBExtInfoStructFromDeviceDescriptor_run {env : Env} {d : Device} {t : ℕ}
    (hopen : (env t).openDevice d = none) (desc : DeviceDescriptor) (info : USBDeviceInfo)
    (s : DriverState) :
    (getUSBExtInfoStructFromDeviceDescriptor env d desc info).run t s =
      let reply := (env (t + 1)).getStringDescriptor d 0 0
      let r :=
        if 4 < reply.retValue then (readWithoutLanguage env d desc info).run (t + 2) s
        else (decodeLanguages env d desc (writeBuffer zeroBuffer reply.data) info).run (t + 2) s
      ⟨r.value, .openDevice d true :: .getStringDescriptor d 0 0 :: (r.calls ++ [.closeDevice d]),
        r.store⟩ := by
  simp only [getUSBExtInfoStructFromDeviceDescriptor, libusbOpen, libusbGetStringDescriptor,
    libusbClose, Prog.bind_run, Prog.ask_run, hopen, List.length_singleton]
  by_cases hlong : 4 < ((env (t + 1)).getStringDescriptor d 0 0).retValue <;> simp [hlong]

/-- And one that does not. -/
lemma getUSBExtInfoStructFromDeviceDescriptor_run_of_error {env : Env} {d : Device} {t : ℕ}
    {e : LibusbError} (hopen : (env t).openDevice d = some e) (desc : DeviceDescriptor)
    (info : USBDeviceInfo) (s : DriverState) :
    (getUSBExtInfoStructFromDeviceDescriptor env d desc info).run t s =
      ⟨(.errorGeneral, info), [.openDevice d false], s⟩ := by
  simp [getUSBExtInfoStructFromDeviceDescriptor, libusbOpen, hopen]

/-- What holds of the structure as it was and after either branch holds after the call. -/
lemma getUSBExtInfoStructFromDeviceDescriptor_induct {env : Env} {d : Device}
    {desc : DeviceDescriptor} {info : USBDeviceInfo} {P : USBDeviceInfo → Prop} (hsame : P info)
    (hwithout : ∀ t s, P ((readWithoutLanguage env d desc info).run t s).value.2)
    (hdecoded : ∀ langBuff t s, P ((decodeLanguages env d desc langBuff info).run t s).value.2)
    (t : ℕ) (s : DriverState) :
    P ((getUSBExtInfoStructFromDeviceDescriptor env d desc info).run t s).value.2 := by
  cases hopen : (env t).openDevice d with
  | some e =>
      rw [getUSBExtInfoStructFromDeviceDescriptor_run_of_error hopen]
      exact hsame
  | none =>
      rw [getUSBExtInfoStructFromDeviceDescriptor_run hopen]
      dsimp only
      split_ifs
      · exact hwithout _ _
      · exact hdecoded _ _ _

/-! ## When a string is read -/

/-- What arrived is a string descriptor, and all of it. -/
def WholeString (reply : StringReply) : Prop :=
  (writeBuffer zeroBuffer reply.data).getD 1 0 = dtString ∧
    (((writeBuffer zeroBuffer reply.data).getD 0 0).toNat : Int) ≤ reply.retValue

/-- A string asked for at `t` is read: it has an index, and either its descriptor arrives whole or,
where the request itself fails, the ASCII request succeeds. -/
def StringRead (env : Env) (d : Device) (languageId : UInt16) (index : UInt8) (t : ℕ) : Prop :=
  index ≠ 0 ∧
    if ((env t).getStringDescriptor d index languageId).retValue < 0 then
      0 ≤ ((env (t + 1)).getStringDescriptorAscii d index).retValue
    else WholeString ((env t).getStringDescriptor d index languageId)

/-- The number of requests made for a string. -/
def stringCalls (env : Env) (d : Device) (languageId : UInt16) (index : UInt8) (t : ℕ) : ℕ :=
  if index = 0 then 0
  else if ((env t).getStringDescriptor d index languageId).retValue < 0 then 2 else 1

/-- How the reading of a string can end: there is none, neither request succeeds, the second does,
what arrives is no string descriptor, or not all of one, or all of it. -/
inductive StringResult (env : Env) (d : Device) (languageId : UInt16) (index : UInt8)
    (text : CxxString) (t : ℕ) (s : DriverState) :
    Result Call DriverState (Status × CxxString) → Prop
  | absent (hindex : index = 0) : StringResult env d languageId index text t s
      ⟨(.errorGeneral, text), [], s⟩
  | refused (hindex : index ≠ 0)
      (hreply : ((env t).getStringDescriptor d index languageId).retValue < 0)
      (hascii : ((env (t + 1)).getStringDescriptorAscii d index).retValue < 0) :
      StringResult env d languageId index text t s ⟨(.errorGeneral, text),
        [.getStringDescriptor d index languageId, .getStringDescriptorAscii d index], s⟩
  | ascii (hindex : index ≠ 0)
      (hreply : ((env t).getStringDescriptor d index languageId).retValue < 0)
      (hascii : 0 ≤ ((env (t + 1)).getStringDescriptorAscii d index).retValue) :
      StringResult env d languageId index text t s
        ⟨(.errorNone, ((writeBuffer
            (writeBuffer zeroBuffer ((env t).getStringDescriptor d index languageId).data)
            ((env (t + 1)).getStringDescriptorAscii d index).data).takeWhile (· ≠ 0)).map
              fun b => Char.ofNat b.toNat),
          [.getStringDescriptor d index languageId, .getStringDescriptorAscii d index], s⟩
  | malformed (hindex : index ≠ 0)
      (hreply : 0 ≤ ((env t).getStringDescriptor d index languageId).retValue)
      (hshape : ¬ WholeString ((env t).getStringDescriptor d index languageId)) :
      StringResult env d languageId index text t s
        ⟨(.errorGeneral, text), [.getStringDescriptor d index languageId], s⟩
  | decoded (hindex : index ≠ 0)
      (hreply : 0 ≤ ((env t).getStringDescriptor d index languageId).retValue)
      (hshape : WholeString ((env t).getStringDescriptor d index languageId)) :
      StringResult env d languageId index text t s ⟨(.errorNone, appendCharacters
          (writeBuffer zeroBuffer ((env t).getStringDescriptor d index languageId).data) text),
        [.getStringDescriptor d index languageId], s⟩

/-- Whatever libusb answers, the run is one of these. -/
lemma getUSBDescriptorValue_result (env : Env) (d : Device) (languageId : UInt16) (index : UInt8)
    (text : CxxString) (t : ℕ) (s : DriverState) :
    StringResult env d languageId index text t s
      ((getUSBDescriptorValue env d languageId index text).run t s) := by
  by_cases hindex : index = 0
  · have hrun : (getUSBDescriptorValue env d languageId index text).run t s =
        ⟨(.errorGeneral, text), [], s⟩ := by simp [getUSBDescriptorValue, hindex]
    exact hrun ▸ .absent hindex
  by_cases hreply : ((env t).getStringDescriptor d index languageId).retValue < 0
  · by_cases hascii : ((env (t + 1)).getStringDescriptorAscii d index).retValue < 0
    · have hrun : (getUSBDescriptorValue env d languageId index text).run t s =
          ⟨(.errorGeneral, text), [.getStringDescriptor d index languageId,
            .getStringDescriptorAscii d index], s⟩ := by
        simp [getUSBDescriptorValue, libusbGetStringDescriptor, libusbGetStringDescriptorAscii,
          hindex, hreply, hascii]
      exact hrun ▸ .refused hindex hreply hascii
    · have hrun : (getUSBDescriptorValue env d languageId index text).run t s =
          ⟨(.errorNone, ((writeBuffer
              (writeBuffer zeroBuffer ((env t).getStringDescriptor d index languageId).data)
              ((env (t + 1)).getStringDescriptorAscii d index).data).takeWhile (· ≠ 0)).map
                fun b => Char.ofNat b.toNat),
            [.getStringDescriptor d index languageId, .getStringDescriptorAscii d index], s⟩ := by
        simp only [getUSBDescriptorValue, libusbGetStringDescriptor, libusbGetStringDescriptorAscii,
          Prog.bind_run, Prog.ask_run, List.length_singleton, hindex, hreply, hascii, if_true,
          if_false, Prog.pure_run, List.append_nil]
        rfl
      exact hrun ▸ .ascii hindex hreply (not_lt.mp hascii)
  by_cases hshape : WholeString ((env t).getStringDescriptor d index languageId)
  · have hlength := not_lt.mpr hshape.2
    have hrun : (getUSBDescriptorValue env d languageId index text).run t s =
        ⟨(.errorNone, appendCharacters
            (writeBuffer zeroBuffer ((env t).getStringDescriptor d index languageId).data) text),
          [.getStringDescriptor d index languageId], s⟩ := by
      simp only [getUSBDescriptorValue, libusbGetStringDescriptor, Prog.bind_run, Prog.ask_run,
        hindex, hreply, hshape.1, hlength, ne_eq, not_true, gt_iff_lt, if_false, Prog.pure_run,
        List.append_nil]
    exact hrun ▸ .decoded hindex (not_lt.mp hreply) hshape
  · have hrun : (getUSBDescriptorValue env d languageId index text).run t s =
        ⟨(.errorGeneral, text), [.getStringDescriptor d index languageId], s⟩ := by
      rcases not_and_or.mp hshape with htype | hlength
      · simp only [getUSBDescriptorValue, libusbGetStringDescriptor, Prog.bind_run, Prog.ask_run,
          hindex, hreply, htype, ne_eq, not_false_eq_true, if_true, if_false, Prog.pure_run,
          List.append_nil]
      · by_cases htype : (writeBuffer zeroBuffer
            ((env t).getStringDescriptor d index languageId).data).getD 1 0 = dtString
        · simp only [getUSBDescriptorValue, libusbGetStringDescriptor, Prog.bind_run, Prog.ask_run,
            hindex, hreply, htype, ne_eq, not_true, gt_iff_lt, not_le.mp hlength, if_true, if_false,
            Prog.pure_run, List.append_nil]
        · simp only [getUSBDescriptorValue, libusbGetStringDescriptor, Prog.bind_run, Prog.ask_run,
            hindex, hreply, htype, ne_eq, not_false_eq_true, if_true, if_false, Prog.pure_run,
            List.append_nil]
    exact hrun ▸ .malformed hindex (not_lt.mp hreply) hshape

section StringResult

variable {env : Env} {d : Device} {languageId : UInt16} {index : UInt8} {text : CxxString} {t : ℕ}
  {s : DriverState} {r : Result Call DriverState (Status × CxxString)}

lemma StringResult.status (h : StringResult env d languageId index text t s r) :
    r.value.1 = .errorNone ↔ StringRead env d languageId index t := by
  unfold StringRead
  cases h with
  | absent hindex => simp [hindex]
  | refused hindex hreply hascii => simp [hreply, hascii]
  | ascii hindex hreply hascii => simp [hindex, hreply, hascii]
  | malformed hindex hreply hshape => simp [not_lt.mpr hreply, hshape]
  | decoded hindex hreply hshape => simp [hindex, not_lt.mpr hreply, hshape]

lemma StringResult.calls_length (h : StringResult env d languageId index text t s r) :
    r.calls.length = stringCalls env d languageId index t := by
  unfold stringCalls
  cases h with
  | absent hindex => simp [hindex]
  | refused hindex hreply hascii => simp [hindex, hreply]
  | ascii hindex hreply hascii => simp [hindex, hreply]
  | malformed hindex hreply hshape => simp [hindex, not_lt.mpr hreply]
  | decoded hindex hreply hshape => simp [hindex, not_lt.mpr hreply]

lemma StringResult.onlyOn (h : StringResult env d languageId index text t s r) :
    ∀ c ∈ r.calls, c.OnlyOn d := by
  cases h <;> simp [Call.OnlyOn, Call.device]

/-- Reading a string takes nothing. -/
lemma StringResult.balanced (h : StringResult env d languageId index text t s r) (held : Held) :
    Prog.replay account held r.calls = some held := by
  cases h <;> simp [account]

end StringResult

/-- The strings asked for without a language begin at `t`, and the serial number comes last. -/
def serialNumberAt (env : Env) (d : Device) (desc : DeviceDescriptor) (t : ℕ) : ℕ :=
  let product := t + stringCalls env d 0 desc.iManufacturer t
  product + stringCalls env d 0 desc.iProduct product

lemma readWithoutLanguage_status (env : Env) (d : Device) (desc : DeviceDescriptor)
    (info : USBDeviceInfo) (t : ℕ) (s : DriverState) :
    ((readWithoutLanguage env d desc info).run t s).value.1 = .errorNone ↔
      StringRead env d 0 desc.iSerialNumber (serialNumberAt env d desc t) := by
  simp only [readWithoutLanguage, Prog.bind_run, Prog.pure_run,
    (getUSBDescriptorValue_result _ _ _ _ _ _ _).status,
    (getUSBDescriptorValue_result _ _ _ _ _ _ _).calls_length, serialNumberAt]

/-- Languages and strings are read, beginning at `t`: the device opens, and unless its language
table is short enough to be decoded, its serial number is read. -/
def StringsRead (env : Env) (d : Device) (desc : DeviceDescriptor) (t : ℕ) : Prop :=
  (env t).openDevice d = none ∧
    (4 < ((env (t + 1)).getStringDescriptor d 0 0).retValue →
      StringRead env d 0 desc.iSerialNumber (serialNumberAt env d desc (t + 2)))

/-- **The status of the strings.**  Of the up to twelve strings only one can make the call fail. -/
theorem getUSBExtInfoStructFromDeviceDescriptor_status (env : Env) (d : Device)
    (desc : DeviceDescriptor) (info : USBDeviceInfo) (t : ℕ) (s : DriverState) :
    ((getUSBExtInfoStructFromDeviceDescriptor env d desc info).run t s).value.1 = .errorNone ↔
      StringsRead env d desc t := by
  unfold StringsRead
  cases hopen : (env t).openDevice d with
  | some e => simp [getUSBExtInfoStructFromDeviceDescriptor_run_of_error hopen]
  | none =>
      rw [getUSBExtInfoStructFromDeviceDescriptor_run hopen]
      by_cases hlong : 4 < ((env (t + 1)).getStringDescriptor d 0 0).retValue
      · simp only [hlong, if_true, true_implies, true_and]
        exact readWithoutLanguage_status env d desc info (t + 2) s
      · simp only [hlong, if_false, false_implies, decodeLanguages, Prog.bind_run,
          Prog.pure_run, and_true]

/-! ## What the code touches -/

lemma getUSBDescriptorValue_onlyOn (env : Env) (d : Device) (languageId : UInt16) (index : UInt8)
    (text : CxxString) :
    Prog.Emits (Call.OnlyOn d) (getUSBDescriptorValue env d languageId index text) :=
  fun t s => (getUSBDescriptorValue_result env d languageId index text t s).onlyOn

lemma getUSBProductInfo_onlyOn (env : Env) (d : Device) (desc : DeviceDescriptor)
    (langBuff : List UInt8) (devIndex : ℕ) (productInfo : USBProductInfo) :
    Prog.Emits (Call.OnlyOn d) (getUSBProductInfo env d desc langBuff devIndex productInfo) :=
  Prog.Emits.bind (getUSBDescriptorValue_onlyOn _ _ _ _ _) fun _ =>
    Prog.Emits.bind (getUSBDescriptorValue_onlyOn _ _ _ _ _) fun _ =>
      Prog.Emits.bind (getUSBDescriptorValue_onlyOn _ _ _ _ _) fun _ => Prog.Emits.pure _

lemma languageStep_onlyOn (env : Env) (d : Device) (desc : DeviceDescriptor)
    (langBuff : List UInt8) (languageCount : ℕ) (info : USBDeviceInfo) :
    Prog.Emits (Call.OnlyOn d) (languageStep env d desc langBuff languageCount info) := by
  match languageCount with
  | 0 | 1 | 2 | 3 =>
      exact Prog.Emits.bind (getUSBProductInfo_onlyOn _ _ _ _ _ _) fun _ => Prog.Emits.pure _
  | _ + 4 => exact Prog.Emits.pure _

/-- Languages and strings are asked of the one device. -/
lemma getUSBExtInfoStructFromDeviceDescriptor_onlyOn (env : Env) (d : Device)
    (desc : DeviceDescriptor) (info : USBDeviceInfo) :
    Prog.Emits (Call.OnlyOn d) (getUSBExtInfoStructFromDeviceDescriptor env d desc info) := by
  refine Prog.Emits.bind (Prog.Emits.ask fun _ => by simp [Call.OnlyOn, Call.device]) fun r => ?_
  split
  · exact Prog.Emits.pure _
  · refine Prog.Emits.bind (Prog.Emits.ask fun _ => by simp [Call.OnlyOn, Call.device])
      fun reply => ?_
    have hclose : ∀ r : Status × USBDeviceInfo,
        Prog.Emits (Call.OnlyOn d) (libusbClose d >>= fun _ => pure r) := fun r =>
      Prog.Emits.bind (Prog.Emits.tell (by simp [Call.OnlyOn, Call.device]))
        fun _ => Prog.Emits.pure _
    split_ifs
    · refine Prog.Emits.bind ?_ hclose
      exact Prog.Emits.bind (getUSBDescriptorValue_onlyOn _ _ _ _ _) fun _ =>
        Prog.Emits.bind (getUSBDescriptorValue_onlyOn _ _ _ _ _) fun _ =>
          Prog.Emits.bind (getUSBDescriptorValue_onlyOn _ _ _ _ _) fun _ => Prog.Emits.pure _
    · refine Prog.Emits.bind ?_ hclose
      exact Prog.Emits.bind (Prog.Emits.foldlM (fun _ _ => languageStep_onlyOn _ _ _ _ _ _) _ _)
        fun _ => Prog.Emits.pure _

/-! ## What is given back -/

lemma getUSBDescriptorValue_balanced (env : Env) (d : Device) (languageId : UInt16) (index : UInt8)
    (text : CxxString) :
    Prog.Balanced account (getUSBDescriptorValue env d languageId index text) := fun held t s =>
  ⟨held, (getUSBDescriptorValue_result env d languageId index text t s).balanced held, rfl⟩

lemma getUSBProductInfo_balanced (env : Env) (d : Device) (desc : DeviceDescriptor)
    (langBuff : List UInt8) (devIndex : ℕ) (productInfo : USBProductInfo) :
    Prog.Balanced account (getUSBProductInfo env d desc langBuff devIndex productInfo) :=
  Prog.Balanced.bind (getUSBDescriptorValue_balanced _ _ _ _ _) fun _ =>
    Prog.Balanced.bind (getUSBDescriptorValue_balanced _ _ _ _ _) fun _ =>
      Prog.Balanced.bind (getUSBDescriptorValue_balanced _ _ _ _ _) fun _ => Prog.Balanced.pure _

lemma languageStep_balanced (env : Env) (d : Device) (desc : DeviceDescriptor)
    (langBuff : List UInt8) (languageCount : ℕ) (info : USBDeviceInfo) :
    Prog.Balanced account (languageStep env d desc langBuff languageCount info) := by
  match languageCount with
  | 0 | 1 | 2 | 3 =>
      exact Prog.Balanced.bind (getUSBProductInfo_balanced _ _ _ _ _ _) fun _ =>
        Prog.Balanced.pure _
  | _ + 4 => exact Prog.Balanced.pure _

/-- The device that is opened is closed. -/
lemma getUSBExtInfoStructFromDeviceDescriptor_balanced (env : Env) (d : Device)
    (desc : DeviceDescriptor) (info : USBDeviceInfo) :
    Prog.Balanced account (getUSBExtInfoStructFromDeviceDescriptor env d desc info) := by
  have hstrings : Prog.Balanced account (readWithoutLanguage env d desc info) :=
    Prog.Balanced.bind (getUSBDescriptorValue_balanced _ _ _ _ _) fun _ =>
      Prog.Balanced.bind (getUSBDescriptorValue_balanced _ _ _ _ _) fun _ =>
        Prog.Balanced.bind (getUSBDescriptorValue_balanced _ _ _ _ _) fun _ => Prog.Balanced.pure _
  have hlanguages : ∀ langBuff, Prog.Balanced account (decodeLanguages env d desc langBuff info) :=
    fun _ => Prog.Balanced.bind (Prog.Balanced.foldlM (fun _ _ => languageStep_balanced _ _ _ _ _ _)
      _ _) fun _ => Prog.Balanced.pure _
  refine Prog.Balanced.acquire fun r held => ?_
  match r with
  | some e => exact ⟨held, rfl, Prog.Leads.pure rfl⟩
  | none =>
      refine ⟨{ held with handles := d :: held.handles }, rfl, ?_⟩
      refine Prog.Leads.of_balanced (Prog.Balanced.ask fun _ _ => rfl) fun reply => ?_
      dsimp only
      split_ifs
      · exact Prog.Leads.release hstrings (by simp [account]) fun _ => Prog.Balanced.pure _
      · exact Prog.Leads.release (hlanguages _) (by simp [account]) fun _ => Prog.Balanced.pure _

/-! ## One language -/

/-- The four product infos, by number. -/
def USBDeviceInfo.productInfo (info : USBDeviceInfo) : Fin 4 → USBProductInfo
  | 0 => info.productInfo1
  | 1 => info.productInfo2
  | 2 => info.productInfo3
  | 3 => info.productInfo4

/-- A string was asked for in a language, and what came of it was stored.  An index of 0 asks for
nothing. -/
def StoredFrom (env : Env) (d : Device) (languageId : UInt16) (index : UInt8)
    (before after : CxxString) (calls : List Call) : Prop :=
  (index ≠ 0 → .getStringDescriptor d index languageId ∈ calls) ∧
    ∃ t s, after = ((getUSBDescriptorValue env d languageId index before).run t s).value.2

lemma StoredFrom.mono {env : Env} {d : Device} {languageId : UInt16} {index : UInt8}
    {before after : CxxString} {calls calls' : List Call} (hsub : calls ⊆ calls')
    (h : StoredFrom env d languageId index before after calls) :
    StoredFrom env d languageId index before after calls' :=
  ⟨fun hi => hsub (h.1 hi), h.2⟩

/-- Running the request stores its result. -/
lemma storedFrom_run (env : Env) (d : Device) (languageId : UInt16) (index : UInt8)
    (before : CxxString) (t : ℕ) (s : DriverState) :
    StoredFrom env d languageId index before
      ((getUSBDescriptorValue env d languageId index before).run t s).value.2
      ((getUSBDescriptorValue env d languageId index before).run t s).calls := by
  refine ⟨fun hi => ?_, t, s, rfl⟩
  simp [getUSBDescriptorValue, hi, libusbGetStringDescriptor]

/-- A product info has been filled in for a language. -/
structure FilledIn (env : Env) (d : Device) (desc : DeviceDescriptor) (languageId : UInt16)
    (before after : USBProductInfo) (calls : List Call) : Prop where
  language : after.languageId = languageId
  serialNumber :
    StoredFrom env d languageId desc.iSerialNumber before.serialNumber after.serialNumber calls
  manufacturer :
    StoredFrom env d languageId desc.iManufacturer before.manufacturer after.manufacturer calls
  product : StoredFrom env d languageId desc.iProduct before.product after.product calls

lemma FilledIn.mono {env : Env} {d : Device} {desc : DeviceDescriptor} {languageId : UInt16}
    {before after : USBProductInfo} {calls calls' : List Call} (hsub : calls ⊆ calls')
    (h : FilledIn env d desc languageId before after calls) :
    FilledIn env d desc languageId before after calls' :=
  ⟨h.language, h.serialNumber.mono hsub, h.manufacturer.mono hsub, h.product.mono hsub⟩

lemma getUSBProductInfo_filledIn (env : Env) (d : Device) (desc : DeviceDescriptor)
    (langBuff : List UInt8) (devIndex : ℕ) (productInfo : USBProductInfo) (t : ℕ)
    (s : DriverState) :
    FilledIn env d desc (word langBuff devIndex) productInfo
      ((getUSBProductInfo env d desc langBuff devIndex productInfo).run t s).value
      ((getUSBProductInfo env d desc langBuff devIndex productInfo).run t s).calls := by
  simp only [getUSBProductInfo, Prog.bind_run, Prog.pure_run, List.append_nil]
  exact
    { language := rfl
      serialNumber := (storedFrom_run _ _ _ _ _ _ _).mono (List.subset_append_left _ _)
      manufacturer := (storedFrom_run _ _ _ _ _ _ _).mono
        (List.Subset.trans (List.subset_append_left _ _) (List.subset_append_right _ _))
      product := (storedFrom_run _ _ _ _ _ _ _).mono
        (List.Subset.trans (List.subset_append_right _ _) (List.subset_append_right _ _)) }

/-! ## The loop over the languages -/

/-- The loop between two points: the product infos of the languages in between are filled in, the
others and the count are as they were. -/
structure LanguagesRead (env : Env) (d : Device) (desc : DeviceDescriptor) (langBuff : List UInt8)
    (first last : ℕ) (info info' : USBDeviceInfo) (calls : List Call) : Prop where
  filledIn : ∀ k : Fin 4, first ≤ k → k < last →
    FilledIn env d desc (word langBuff (2 + 2 * k)) (info.productInfo k) (info'.productInfo k) calls
  unchanged : ∀ k : Fin 4, k < first ∨ last ≤ k → info'.productInfo k = info.productInfo k
  numLanguageIds : info'.numLanguageIds = info.numLanguageIds

lemma languageStep_languagesRead (env : Env) (d : Device) (desc : DeviceDescriptor)
    (langBuff : List UInt8) (languageCount : ℕ) (info : USBDeviceInfo) (t : ℕ) (s : DriverState) :
    LanguagesRead env d desc langBuff languageCount (languageCount + 1) info
      ((languageStep env d desc langBuff languageCount info).run t s).value
      ((languageStep env d desc langBuff languageCount info).run t s).calls := by
  have hfill := fun productInfo => getUSBProductInfo_filledIn env d desc langBuff
    (2 + 2 * languageCount) productInfo t s
  refine ⟨fun k hle hlt => ?_, fun k hk => ?_, ?_⟩
  · obtain rfl : (k : ℕ) = languageCount := by omega
    match k with
    | 0 | 1 | 2 | 3 => exact (hfill _).mono (by simp [languageStep, USBDeviceInfo.productInfo])
  · match languageCount, k with
    | 0, 1 | 0, 2 | 0, 3 | 1, 0 | 1, 2 | 1, 3 | 2, 0 | 2, 1 | 2, 3 | 3, 0 | 3, 1 | 3, 2 => rfl
    | 0, 0 | 1, 1 | 2, 2 | 3, 3 => simp at hk
    | _ + 4, _ => rfl
  · match languageCount with
    | 0 | 1 | 2 | 3 | _ + 4 => rfl

/-- Two stretches of the loop, one after the other. -/
lemma LanguagesRead.trans {env : Env} {d : Device} {desc : DeviceDescriptor}
    {langBuff : List UInt8} {first mid last : ℕ} {info info' info'' : USBDeviceInfo}
    {calls calls' : List Call} (hfm : first ≤ mid) (hml : mid ≤ last)
    (h : LanguagesRead env d desc langBuff first mid info info' calls)
    (h' : LanguagesRead env d desc langBuff mid last info' info'' calls') :
    LanguagesRead env d desc langBuff first last info info'' (calls ++ calls') where
  filledIn k hle hlt := by
    by_cases hk : (k : ℕ) < mid
    · rw [h'.unchanged k (Or.inl hk)]
      exact (h.filledIn k hle hk).mono (List.subset_append_left _ _)
    · rw [← h.unchanged k (Or.inr (not_lt.mp hk))]
      exact (h'.filledIn k (not_lt.mp hk) hlt).mono (List.subset_append_right _ _)
  unchanged k hk := by
    rw [h'.unchanged k (by omega), h.unchanged k (by omega)]
  numLanguageIds := by rw [h'.numLanguageIds, h.numLanguageIds]

/-- The whole loop, by induction on the languages left. -/
lemma languageLoop_languagesRead (env : Env) (d : Device) (desc : DeviceDescriptor)
    (langBuff : List UInt8) :
    ∀ (remaining first : ℕ) (info : USBDeviceInfo) (t : ℕ) (s : DriverState),
      let r := ((List.range' first remaining).foldlM
        (fun info languageCount => languageStep env d desc langBuff languageCount info) info).run t s
      LanguagesRead env d desc langBuff first (first + remaining) info r.value r.calls
  | 0, first, info, _, _ => ⟨fun k h h' => absurd h' (by omega), fun _ _ => rfl, rfl⟩
  | remaining + 1, first, info, t, s => by
      have hstep := languageStep_languagesRead env d desc langBuff first info t s
      have ih := languageLoop_languagesRead env d desc langBuff remaining (first + 1)
      rw [List.range'_succ, List.foldlM_cons, Prog.bind_run]
      refine hstep.trans (by omega) (by omega) ?_
      have hlast : first + (remaining + 1) = first + 1 + remaining := by omega
      rw [hlast]
      exact ih _ _ _

/-! ## String descriptors -/

/-- A well-formed string descriptor: no more 16-bit units than its length byte can count. -/
structure StringDescriptor where
  units : List UInt16
  le_max : units.length ≤ 126

namespace StringDescriptor

variable (descriptor : StringDescriptor)

/-- The descriptor as libusb returns it, all of it transferred. -/
def reply : StringReply where
  retValue := 2 + 2 * descriptor.units.length
  data := [UInt8.ofNat (2 + 2 * descriptor.units.length), dtString] ++
    descriptor.units.flatMap wordBytes

/-- The buffer the plugin reads it from. -/
def descBuf : List UInt8 := writeBuffer zeroBuffer descriptor.reply.data

lemma descBuf_eq : descriptor.descBuf =
    [UInt8.ofNat (2 + 2 * descriptor.units.length), dtString] ++
      (descriptor.units.flatMap wordBytes ++ zeroBuffer.drop descriptor.reply.data.length) := by
  have hfits := descriptor.le_max
  have hlen : descriptor.reply.data.length = 2 + 2 * descriptor.units.length := by
    rw [reply, List.length_append, length_table]
    rfl
  rw [descBuf, writeBuffer, List.take_of_length_le]
  · simp [reply]
  · rw [List.length_append, List.length_drop, hlen, zeroBuffer, List.length_replicate]
    omega

lemma word_descBuf {k : ℕ} (hk : k < descriptor.units.length) :
    word descriptor.descBuf (2 + 2 * k) = descriptor.units[k] := by
  rw [descBuf_eq]
  exact (word_append _ _ _).trans (word_table _ _ hk)

/-- The length byte. -/
lemma bLength_eq : (descriptor.descBuf.getD 0 0).toNat = 2 + 2 * descriptor.units.length := by
  have hfits := descriptor.le_max
  rw [descBuf_eq, List.cons_append, List.getD_cons_zero, UInt8.toNat_ofNat']
  omega

end StringDescriptor

/-! ## Tables of languages -/

/-- A well-formed table: at least one language, and no more than a string descriptor holds. -/
structure LanguageTable where
  ids : List UInt16
  one_le : 1 ≤ ids.length
  le_max : ids.length ≤ 126

namespace LanguageTable

variable (table : LanguageTable)

/-- The table as string descriptor 0, all of it transferred. -/
def reply : StringReply where
  retValue := 2 + 2 * table.ids.length
  data := [UInt8.ofNat (2 + 2 * table.ids.length), dtString] ++ table.ids.flatMap wordBytes

/-- The buffer the plugin reads the table from. -/
def langBuff : List UInt8 := writeBuffer zeroBuffer table.reply.data

/-- The table is a string descriptor whose units are the ids. -/
def descriptor : StringDescriptor := ⟨table.ids, table.le_max⟩

lemma word_langBuff {k : ℕ} (hk : k < table.ids.length) :
    word table.langBuff (2 + 2 * k) = table.ids[k] :=
  table.descriptor.word_descBuf hk

/-- The count computed from the length byte. -/
lemma numLanguageIds_eq :
    UInt8.ofInt ((((table.langBuff.getD 0 0).toNat : Int) - 2).tdiv 2) =
      UInt8.ofNat table.ids.length := by
  have hfits := table.le_max
  have hlen : (table.langBuff.getD 0 0).toNat = 2 + 2 * table.ids.length :=
    table.descriptor.bLength_eq
  have hsub : ((2 + 2 * table.ids.length : ℕ) : Int) - 2 = (table.ids.length : Int) * 2 := by
    push_cast; omega
  rw [hlen, hsub, Int.mul_tdiv_cancel _ (by decide), UInt8.ofInt]
  congr 1
  omega

/-- What the plugin is to make of the table. -/
structure Decoded (env : Env) (d : Device) (desc : DeviceDescriptor) (info info' : USBDeviceInfo)
    (calls : List Call) : Prop where
  numLanguageIds : info'.numLanguageIds.toNat = table.ids.length
  filledIn : ∀ (k : Fin 4) (hk : k < table.ids.length),
    FilledIn env d desc table.ids[k] (info.productInfo k) (info'.productInfo k) calls
  beyond : ∀ k : Fin 4, table.ids.length ≤ k → info'.productInfo k = info.productInfo k

end LanguageTable

/-- **The decoding branch decodes every table.** -/
theorem decodeLanguages_decoded (env : Env) (d : Device) (desc : DeviceDescriptor)
    (table : LanguageTable) (info : USBDeviceInfo) (t : ℕ) (s : DriverState) :
    let r := (decodeLanguages env d desc table.langBuff info).run t s
    r.value.1 = .errorNone ∧ table.Decoded env d desc info r.value.2 r.calls := by
  have hfits := table.le_max
  have hcount : (UInt8.ofNat table.ids.length).toNat = table.ids.length := by
    rw [UInt8.toNat_ofNat']; omega
  have hloop := languageLoop_languagesRead env d desc table.langBuff table.ids.length 0
    { info with numLanguageIds := UInt8.ofNat table.ids.length } t s
  simp only [decodeLanguages, table.numLanguageIds_eq, hcount, List.range_eq_range', Prog.bind_run,
    Prog.pure_run, List.append_nil]
  rw [Nat.zero_add] at hloop
  refine ⟨trivial, ?_, fun k hk => ?_, fun k hk => hloop.unchanged k (Or.inr hk)⟩
  · rw [hloop.numLanguageIds, hcount]
  · have hword : table.ids[k] = word table.langBuff (2 + 2 * k) := (table.word_langBuff hk).symm
    rw [hword]
    exact hloop.filledIn k (Nat.zero_le _) hk

/-! ## The length test -/

/-- Only a table of one language passes the test. -/
lemma LanguageTable.long_iff (table : LanguageTable) :
    4 < table.reply.retValue ↔ table.ids.length ≠ 1 := by
  have hpos := table.one_le
  simp only [LanguageTable.reply]
  omega

/-- It is decoded. -/
lemma getUSBExtInfoStructFromDeviceDescriptor_decoded {env : Env} {d : Device}
    {desc : DeviceDescriptor} {table : LanguageTable} {t : ℕ} {s : DriverState}
    (hopen : (env t).openDevice d = none)
    (htable : (env (t + 1)).getStringDescriptor d 0 0 = table.reply) (hone : table.ids.length = 1)
    (info : USBDeviceInfo) :
    let r := (getUSBExtInfoStructFromDeviceDescriptor env d desc info).run t s
    table.Decoded env d desc info r.value.2 r.calls := by
  have hshort : ¬ 4 < table.reply.retValue := fun hlong => table.long_iff.mp hlong hone
  obtain ⟨-, hnum, hfilled, hbeyond⟩ := decodeLanguages_decoded env d desc table info (t + 2) s
  rw [getUSBExtInfoStructFromDeviceDescriptor_run hopen, htable]
  simp only [hshort, if_false]
  refine ⟨hnum, fun k hk => (hfilled k hk).mono ?_, hbeyond⟩
  intro c hc
  exact List.mem_cons_of_mem _ (List.mem_cons_of_mem _ (List.mem_append_left _ hc))

/-- A reply that fails the test is not decoded, and its languages are never counted. -/
lemma numLanguageIds_of_long {env : Env} {d : Device} {t : ℕ}
    (hopen : (env t).openDevice d = none)
    (hlong : 4 < ((env (t + 1)).getStringDescriptor d 0 0).retValue) (desc : DeviceDescriptor)
    (info : USBDeviceInfo) (s : DriverState) :
    ((getUSBExtInfoStructFromDeviceDescriptor env d desc info).run t s).value.2.numLanguageIds =
      info.numLanguageIds := by
  rw [getUSBExtInfoStructFromDeviceDescriptor_run hopen]
  simp only [hlong, if_true, readWithoutLanguage, Prog.bind_run, Prog.pure_run]

/-- **The language table is decoded completely exactly when it has one language.**  Whatever the
structure held before, a table of one language is decoded; a longer one leaves the count as it
was. -/
theorem languagesDecoded_iff {env : Env} {d : Device} {table : LanguageTable} {t : ℕ}
    (hopen : (env t).openDevice d = none)
    (htable : (env (t + 1)).getStringDescriptor d 0 0 = table.reply) (desc : DeviceDescriptor)
    (s : DriverState) :
    (∀ info : USBDeviceInfo,
      let r := (getUSBExtInfoStructFromDeviceDescriptor env d desc info).run t s
      table.Decoded env d desc info r.value.2 r.calls) ↔ table.ids.length = 1 := by
  constructor
  · intro hdecoded
    by_contra hmany
    have hcount := (hdecoded {}).numLanguageIds
    rw [numLanguageIds_of_long hopen (htable ▸ table.long_iff.mpr hmany)] at hcount
    have hpos := table.one_le
    simp at hcount
    omega
  · exact fun hone => getUSBExtInfoStructFromDeviceDescriptor_decoded hopen htable hone

/-- The condition met: English only. -/
theorem languagesDecoded_english :
    (∀ info : USBDeviceInfo,
      let r := (getUSBExtInfoStructFromDeviceDescriptor sampleOutcomes.steady sampleDisk
        sampleDescriptor info).run 0 (fun _ _ => false)
      (⟨[0x0409], by decide, by decide⟩ : LanguageTable).Decoded sampleOutcomes.steady sampleDisk
        sampleDescriptor info r.value.2 r.calls) ↔ [(0x0409 : UInt16)].length = 1 :=
  languagesDecoded_iff (by decide) (by decide) _ _

/-- English and German. -/
def sampleLanguages : LanguageTable := ⟨[0x0409, 0x0407], by decide, by decide⟩

/-- The sample device with two languages. -/
def sampleTwoLanguages : Outcomes :=
  { sampleOutcomes with
    getStringDescriptor := fun d index languageId =>
      if index = 0 then sampleLanguages.reply
      else sampleOutcomes.getStringDescriptor d index languageId }

/-- **A second language is one too many.**  The device opens and its table is well formed; after
the call the count of languages is still zero, and no string was requested in either language. -/
theorem languages_not_decoded_of_two :
    sampleTwoLanguages.openDevice sampleDisk = none ∧
      sampleTwoLanguages.getStringDescriptor sampleDisk 0 0 = sampleLanguages.reply ∧
      let r := (getUSBExtInfoStructFromDeviceDescriptor sampleTwoLanguages.steady sampleDisk
        sampleDescriptor {}).run 0 (fun _ _ => false)
      r.value.2.numLanguageIds = 0 ∧
        (∀ id ∈ sampleLanguages.ids, ∀ index, .getStringDescriptor sampleDisk index id ∉ r.calls) ∧
        ¬ sampleLanguages.Decoded sampleTwoLanguages.steady sampleDisk sampleDescriptor {} r.value.2
          r.calls := by
  have hnum : ((getUSBExtInfoStructFromDeviceDescriptor sampleTwoLanguages.steady sampleDisk
      sampleDescriptor {}).run 0 (fun _ _ => false)).value.2.numLanguageIds = 0 := by decide
  have hcalls : ((getUSBExtInfoStructFromDeviceDescriptor sampleTwoLanguages.steady sampleDisk
      sampleDescriptor {}).run 0 (fun _ _ => false)).calls =
      [.openDevice sampleDisk true, .getStringDescriptor sampleDisk 0 0,
        .getStringDescriptor sampleDisk 1 0, .getStringDescriptor sampleDisk 2 0,
        .getStringDescriptor sampleDisk 3 0, .closeDevice sampleDisk] := by decide
  refine ⟨by decide, by decide, hnum, ?_, fun hdecoded => ?_⟩
  · rw [hcalls]
    intro id hid index hmem
    simp [sampleLanguages] at hid hmem
    grind
  · exact absurd hdecoded.numLanguageIds (by rw [hnum]; decide)

end Usb
