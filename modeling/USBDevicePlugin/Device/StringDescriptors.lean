import USBDevicePlugin.Device.ExtInfo

/-!
# What is made of a string descriptor

A string descriptor is a length byte, a type byte and 16-bit units, and the length is stated twice: by
the device in that byte, and by libusb as what the transfer returned.

* `characterPositions`, `languagePositions` — where the two decoders look in their buffers.
* **`decoders_transferred_iff`** — when they look only at what was transferred.
* **`stringDescriptors_differ_iff`** — when two descriptors are read as two different strings.
* **`productStrings_roundTrip`** — for a device with one language, strings of 7-bit characters are
  read as they are.
-/

namespace Usb

open Interaction LittleEndian

/-! ## Where the decoders look -/

/-- The positions at which the loop over a string descriptor finds the low bytes of the characters;
the high bytes come next to them. -/
def characterPositions (descBuf : List UInt8) : List ℕ :=
  List.range' 2 (((descBuf.getD 0 0).toNat - 1) / 2) 2

/-- The positions at which the loop over the languages finds the low bytes of the ids it stores. -/
def languagePositions (numLanguageIds : ℕ) : List ℕ :=
  (List.range (min numLanguageIds 4)).map fun languageCount => 2 + 2 * languageCount

/-- The character a unit becomes. -/
def narrow (unit : UInt16) : Char := Char.ofNat unit.toUInt8.toNat

/-- **The loop over a string descriptor appends one character for each position.** -/
lemma appendCharacters_eq (descBuf : List UInt8) (text : CxxString) :
    appendCharacters descBuf text =
      text ++ (characterPositions descBuf).map fun i => narrow (word descBuf i) := by
  rw [appendCharacters, List.foldl_append_eq_append, ← List.flatMap_def, ← List.map_eq_flatMap]
  rfl

lemma mem_characterPositions {descBuf : List UInt8} {i : ℕ} :
    i ∈ characterPositions descBuf ↔
      ∃ k, i = 2 + 2 * k ∧ 2 + 2 * k < (descBuf.getD 0 0).toNat := by
  rw [characterPositions, List.mem_range']
  constructor
  · rintro ⟨k, hk, rfl⟩
    exact ⟨k, rfl, by omega⟩
  · rintro ⟨k, rfl, hk⟩
    exact ⟨k, by omega, rfl⟩

lemma mem_languagePositions {numLanguageIds i : ℕ} :
    i ∈ languagePositions numLanguageIds ↔ ∃ k < min numLanguageIds 4, i = 2 + 2 * k := by
  simp [languagePositions, eq_comm]

lemma length_writeBuffer {descBuf : List UInt8} (h : descBuf.length = 256) (data : List UInt8) :
    (writeBuffer descBuf data).length = 256 := by
  rw [writeBuffer, List.length_take, List.length_append, List.length_drop, h]
  omega

/-- The length byte cannot lead out of the buffer. -/
lemma characterPositions_lt_length (data : List UInt8) {i : ℕ}
    (hi : i ∈ characterPositions (writeBuffer zeroBuffer data)) :
    i + 1 < (writeBuffer zeroBuffer data).length := by
  obtain ⟨k, rfl, hk⟩ := mem_characterPositions.mp hi
  have hbyte := ((writeBuffer zeroBuffer data).getD 0 0).toNat_lt
  rw [length_writeBuffer (by rw [zeroBuffer, List.length_replicate])]
  omega

lemma languagePositions_lt_length (data : List UInt8) {numLanguageIds i : ℕ}
    (hi : i ∈ languagePositions numLanguageIds) :
    i + 1 < (writeBuffer zeroBuffer data).length := by
  obtain ⟨k, hk, rfl⟩ := mem_languagePositions.mp hi
  rw [length_writeBuffer (by rw [zeroBuffer, List.length_replicate])]
  omega

/-! ## What was transferred -/

/-- What libusb leaves: bytes as many as it says, none after an error. -/
structure StringReply.Transferred (reply : StringReply) : Prop where
  le_max : reply.retValue ≤ 256
  length : reply.data.length = reply.retValue.toNat

/-- The first byte of the buffer: the length the device states. -/
def StringReply.bLength (reply : StringReply) : UInt8 := (writeBuffer zeroBuffer reply.data).getD 0 0

/-- After an error, or if nothing came, the buffer is zero. -/
lemma StringReply.Transferred.bLength_eq_zero {reply : StringReply} (h : reply.Transferred)
    (hnothing : reply.retValue ≤ 0) : reply.bLength = 0 := by
  have hnil : reply.data = [] := by
    rw [← List.length_eq_zero_iff, h.length]
    omega
  rw [bLength, hnil]
  rfl

/-- The count the plugin computes from the length byte, with C's division and narrowing. -/
def countFrom (bLength : UInt8) : UInt8 := UInt8.ofInt (((bLength.toNat : Int) - 2).tdiv 2)

/-- A length byte of zero counts 255 languages, one to three none. -/
lemma toNat_countFrom (bLength : UInt8) :
    (countFrom bLength).toNat = if bLength = 0 then 255 else (bLength.toNat - 2) / 2 := by
  have hbyte := bLength.toNat_lt
  split_ifs with hzero
  · subst hzero
    rfl
  · by_cases hone : bLength = 1
    · subst hone
      rfl
    · have hne : bLength.toNat ≠ 0 ∧ bLength.toNat ≠ 1 :=
        ⟨fun h => hzero (UInt8.toNat_inj.mp h), fun h => hone (UInt8.toNat_inj.mp h)⟩
      rw [countFrom, Int.tdiv_eq_ediv_of_nonneg (by omega), UInt8.ofInt, UInt8.toNat_ofNat']
      omega

/-- The count of languages a call stores: what is in the field afterwards, whatever was there
before. -/
def StoresCount (env : Env) (d : Device) (desc : DeviceDescriptor) (t : ℕ) (s : DriverState)
    (numLanguageIds : UInt8) : Prop :=
  ∀ info : USBDeviceInfo,
    ((getUSBExtInfoStructFromDeviceDescriptor env d desc info).run t s).value.2.numLanguageIds =
      numLanguageIds

/-- The count and the ids stored from a table come from bytes that were transferred. -/
def LanguagesTransferred (env : Env) (d : Device) (desc : DeviceDescriptor) (t : ℕ)
    (s : DriverState) (reply : StringReply) : Prop :=
  ∀ numLanguageIds, StoresCount env d desc t s numLanguageIds →
    (reply.retValue < 0 → numLanguageIds = 0) ∧
    (0 ≤ reply.retValue → (numLanguageIds.toNat : Int) ≤ (reply.retValue - 2).tdiv 2) ∧
    ∀ i ∈ languagePositions numLanguageIds.toNat, ((i + 1 : ℕ) : Int) < reply.retValue

/-- What the decoding branch stores. -/
lemma decodeLanguages_stores (env : Env) (d : Device) (desc : DeviceDescriptor)
    (langBuff : List UInt8) (info : USBDeviceInfo) (t : ℕ) (s : DriverState) :
    let info' := ((decodeLanguages env d desc langBuff info).run t s).value.2
    info'.numLanguageIds = countFrom (langBuff.getD 0 0) ∧
      ∀ k : Fin 4, k < (countFrom (langBuff.getD 0 0)).toNat →
        (info'.productInfo k).languageId = word langBuff (2 + 2 * k) := by
  have hloop := languageLoop_languagesRead env d desc langBuff
    (countFrom (langBuff.getD 0 0)).toNat 0
    { info with numLanguageIds := countFrom (langBuff.getD 0 0) } t s
  simp only [decodeLanguages, List.range_eq_range', Prog.bind_run, Prog.pure_run]
  rw [Nat.zero_add] at hloop
  exact ⟨hloop.numLanguageIds, fun k hk => (hloop.filledIn k (Nat.zero_le _) hk).language⟩

section Languages

variable {env : Env} {d : Device} {t : ℕ} {reply : StringReply}

/-- A short reply is decoded: the count comes from its first byte, and the ids from the words behind
the header. -/
lemma getUSBExtInfoStructFromDeviceDescriptor_stores (hopen : (env t).openDevice d = none)
    (hreply : (env (t + 1)).getStringDescriptor d 0 0 = reply) (hshort : reply.retValue ≤ 4)
    (desc : DeviceDescriptor) (info : USBDeviceInfo) (s : DriverState) :
    let info' := ((getUSBExtInfoStructFromDeviceDescriptor env d desc info).run t s).value.2
    info'.numLanguageIds = countFrom reply.bLength ∧
      ∀ k : Fin 4, k < (countFrom reply.bLength).toNat →
        (info'.productInfo k).languageId = word (writeBuffer zeroBuffer reply.data) (2 + 2 * k) := by
  rw [getUSBExtInfoStructFromDeviceDescriptor_run hopen, hreply]
  simp only [not_lt.mpr hshort, if_false]
  exact decodeLanguages_stores env d desc (writeBuffer zeroBuffer reply.data) info (t + 2) s

/-- A longer one is not: the count is left as it was. -/
lemma not_storesCount (hopen : (env t).openDevice d = none)
    (hreply : (env (t + 1)).getStringDescriptor d 0 0 = reply) (hlong : 4 < reply.retValue)
    (desc : DeviceDescriptor) (s : DriverState) (numLanguageIds : UInt8) :
    ¬ StoresCount env d desc t s numLanguageIds := by
  have hsame := fun info =>
    numLanguageIds_of_long hopen (hreply.symm ▸ hlong) desc info s
  intro hstores
  have hzero := (hsame { numLanguageIds := 0 }).symm.trans (hstores _)
  have hone := (hsame { numLanguageIds := 1 }).symm.trans (hstores _)
  exact absurd (hzero.trans hone.symm) (by decide)

lemma storesCount_iff (hopen : (env t).openDevice d = none)
    (hreply : (env (t + 1)).getStringDescriptor d 0 0 = reply) (hshort : reply.retValue ≤ 4)
    (desc : DeviceDescriptor) (s : DriverState) (numLanguageIds : UInt8) :
    StoresCount env d desc t s numLanguageIds ↔ numLanguageIds = countFrom reply.bLength := by
  have hstores := fun info =>
    (getUSBExtInfoStructFromDeviceDescriptor_stores hopen hreply hshort desc info s).1
  constructor
  · exact fun h => (h {}).symm.trans (hstores {})
  · rintro rfl info
    exact hstores info

/-- The replies from which the languages are read without looking further than was transferred: those
that are too long to be decoded, those whose length byte says that there are none, and one whole
language. -/
def SoundLanguages (reply : StringReply) : Prop :=
  4 < reply.retValue ∨ (1 ≤ reply.bLength.toNat ∧ reply.bLength.toNat ≤ 3) ∨
    (reply.retValue = 4 ∧ (reply.bLength = 4 ∨ reply.bLength = 5))

instance (reply : StringReply) : Decidable (SoundLanguages reply) :=
  inferInstanceAs (Decidable (_ ∨ _ ∨ _))

lemma languagesTransferred_iff (hopen : (env t).openDevice d = none)
    (hreply : (env (t + 1)).getStringDescriptor d 0 0 = reply) (htransferred : reply.Transferred)
    (desc : DeviceDescriptor) (s : DriverState) :
    LanguagesTransferred env d desc t s reply ↔ SoundLanguages reply := by
  by_cases hlong : 4 < reply.retValue
  · have hnone := not_storesCount hopen hreply hlong desc s
    exact ⟨fun _ => Or.inl hlong, fun _ n hn => absurd hn (hnone n)⟩
  have hshort := not_lt.mp hlong
  simp only [LanguagesTransferred, storesCount_iff hopen hreply hshort, forall_eq, SoundLanguages,
    hlong, false_or]
  have hcount := toNat_countFrom reply.bLength
  rcases le_or_gt reply.retValue 0 with hnothing | hsome
  · -- the count is 255, and nothing was transferred
    rw [htransferred.bLength_eq_zero hnothing] at hcount ⊢
    refine iff_of_false (fun h => ?_) (by simp)
    rcases lt_or_eq_of_le hnothing with hneg | hzero
    · have hnone := h.1 hneg
      rw [hnone] at hcount
      exact absurd hcount (by decide)
    · have hbound := h.2.1 hzero.ge
      rw [hzero, hcount] at hbound
      exact absurd hbound (by decide)
  · -- between one and four bytes: at most one language is counted, and only four hold it
    have hbyte := reply.bLength.toNat_lt
    have hbound : (reply.retValue - 2).tdiv 2 = if reply.retValue = 4 then 1 else 0 := by
      have hcases : reply.retValue = 1 ∨ reply.retValue = 2 ∨ reply.retValue = 3 ∨
          reply.retValue = 4 := by omega
      rcases hcases with h | h | h | h <;> simp [h]
    have hfour : reply.bLength = 4 ↔ reply.bLength.toNat = 4 := UInt8.toNat_inj.symm
    have hfive : reply.bLength = 5 ↔ reply.bLength.toNat = 5 := UInt8.toNat_inj.symm
    have hzero : reply.bLength = 0 ↔ reply.bLength.toNat = 0 := UInt8.toNat_inj.symm
    simp only [hzero] at hcount
    rw [hbound, hfour, hfive]
    constructor
    · rintro ⟨-, hle, -⟩
      have hle := hle hsome.le
      split_ifs at hcount hle with h1 h2 <;> omega
    · intro hsound
      refine ⟨fun hneg => absurd hneg (not_lt.mpr hsome.le), fun _ => ?_, fun i hi => ?_⟩
      · split_ifs at hcount ⊢ <;> omega
      · obtain ⟨k, hk, rfl⟩ := mem_languagePositions.mp hi
        split_ifs at hcount <;> omega

end Languages

/-! ## Characters -/

instance (reply : StringReply) : Decidable (WholeString reply) := inferInstanceAs (Decidable (_ ∧ _))

/-- The positions of the characters that are appended when a reply to a string request is not an
error: none unless it is a whole string descriptor. -/
def appendedPositions (reply : StringReply) : List ℕ :=
  if 0 ≤ reply.retValue ∧ WholeString reply then
    characterPositions (writeBuffer zeroBuffer reply.data)
  else []

lemma getUSBDescriptorValue_appends {env : Env} {d : Device} {languageId : UInt16} {index : UInt8}
    {t : ℕ} {reply : StringReply} (hindex : index ≠ 0)
    (hreply : (env t).getStringDescriptor d index languageId = reply)
    (hnonneg : 0 ≤ reply.retValue) (text : CxxString) (s : DriverState) :
    ((getUSBDescriptorValue env d languageId index text).run t s).value =
      (if WholeString reply then .errorNone else .errorGeneral,
        text ++ (appendedPositions reply).map fun i =>
          narrow (word (writeBuffer zeroBuffer reply.data) i)) := by
  have hresult := getUSBDescriptorValue_result env d languageId index text t s
  subst hreply
  generalize (getUSBDescriptorValue env d languageId index text).run t s = r at hresult ⊢
  cases hresult with
  | absent h => exact absurd h hindex
  | refused _ hneg _ => exact absurd hnonneg (not_le.mpr hneg)
  | ascii _ hneg _ => exact absurd hnonneg (not_le.mpr hneg)
  | malformed _ _ hshape => simp [appendedPositions, hshape]
  | decoded _ _ hshape =>
      rw [if_pos hshape, appendedPositions, if_pos ⟨hnonneg, hshape⟩, appendCharacters_eq]

lemma WholeString.bLength_le {reply : StringReply} (h : WholeString reply) :
    (reply.bLength.toNat : Int) ≤ reply.retValue := h.2

/-- The positions of a whole string descriptor: every second one behind the header, up to the length
the device states. -/
lemma mem_appendedPositions {reply : StringReply} {i : ℕ} :
    i ∈ appendedPositions reply ↔
      WholeString reply ∧ ∃ k, i = 2 + 2 * k ∧ 2 + 2 * k < reply.bLength.toNat := by
  rw [appendedPositions]
  split_ifs with hdecoded
  · rw [mem_characterPositions, StringReply.bLength]
    exact (and_iff_right hdecoded.2).symm
  · refine iff_of_false List.not_mem_nil ?_
    rintro ⟨hshape, k, -, hk⟩
    have hwhole := hshape.bLength_le
    exact hdecoded ⟨by omega, hshape⟩

/-- The characters appended come from bytes that were transferred, and that are part of the
descriptor. -/
def CharactersTransferred (reply : StringReply) : Prop :=
  ∀ i ∈ appendedPositions reply,
    ((i + 1 : ℕ) : Int) < reply.retValue ∧ i + 1 < reply.bLength.toNat

/-- A string descriptor that ends in the middle of a character. -/
def HalfCharacter (reply : StringReply) : Prop :=
  WholeString reply ∧ 3 ≤ reply.bLength.toNat ∧ reply.bLength.toNat % 2 = 1

instance (reply : StringReply) : Decidable (HalfCharacter reply) :=
  inferInstanceAs (Decidable (_ ∧ _))

lemma charactersTransferred_iff (reply : StringReply) :
    CharactersTransferred reply ↔ ¬ HalfCharacter reply := by
  constructor
  · rintro htransferred ⟨hshape, hthree, hodd⟩
    have hlast : reply.bLength.toNat - 1 ∈ appendedPositions reply :=
      mem_appendedPositions.mpr
        ⟨hshape, (reply.bLength.toNat - 3) / 2, by omega, by omega⟩
    have hinside := (htransferred _ hlast).2
    omega
  · intro hhalf i hi
    obtain ⟨hshape, k, rfl, hk⟩ := mem_appendedPositions.mp hi
    have hwhole := hshape.bLength_le
    have heven : reply.bLength.toNat % 2 ≠ 1 := fun hodd => hhalf ⟨hshape, by omega, hodd⟩
    exact ⟨by omega, by omega⟩

/-- **When the decoders look only at what was transferred.**  The language table is read soundly
exactly when it is too long to be read, or states a length of one to three bytes, or holds one whole
language; a string exactly when it does not end in the middle of a character.  What is stored are the
words at the positions named. -/
theorem decoders_transferred_iff {env : Env} {d : Device} {t : ℕ} {table : StringReply}
    (hopen : (env t).openDevice d = none)
    (htable : (env (t + 1)).getStringDescriptor d 0 0 = table) (htransferred : table.Transferred)
    {env' : Env} {d' : Device} {languageId : UInt16} {index : UInt8} {t' : ℕ} {string : StringReply}
    (hindex : index ≠ 0) (hstring : (env' t').getStringDescriptor d' index languageId = string)
    (desc : DeviceDescriptor) (text : CxxString) (s s' : DriverState) :
    (LanguagesTransferred env d desc t s table ↔ SoundLanguages table) ∧
    (CharactersTransferred string ↔ ¬ HalfCharacter string) ∧
    (table.retValue ≤ 4 → ∀ info : USBDeviceInfo,
      let info' := ((getUSBExtInfoStructFromDeviceDescriptor env d desc info).run t s).value.2
      ∀ k : Fin 4, k < info'.numLanguageIds.toNat →
        2 + 2 * (k : ℕ) ∈ languagePositions info'.numLanguageIds.toNat ∧
        (info'.productInfo k).languageId =
          word (writeBuffer zeroBuffer table.data) (2 + 2 * k)) ∧
    (0 ≤ string.retValue →
      ((getUSBDescriptorValue env' d' languageId index text).run t' s').value.2 =
        text ++ (appendedPositions string).map fun i =>
          narrow (word (writeBuffer zeroBuffer string.data) i)) := by
  refine ⟨languagesTransferred_iff hopen htable htransferred desc s, charactersTransferred_iff string,
    fun hshort info => ?_, fun hnonneg => ?_⟩
  · obtain ⟨hnum, hids⟩ :=
      getUSBExtInfoStructFromDeviceDescriptor_stores hopen htable hshort desc info s
    intro info' k hk
    have hk' : k < (countFrom table.bLength).toNat := hnum ▸ hk
    exact ⟨mem_languagePositions.mpr ⟨k, lt_min hk k.isLt, rfl⟩, hids k hk'⟩
  · rw [getUSBDescriptorValue_appends hindex hstring hnonneg]

/-- The sample disk: one language, and an `A` for the product. -/
theorem decoders_transferred_sampleDisk :
    LanguagesTransferred sampleOutcomes.steady sampleDisk sampleDescriptor 0 (fun _ _ => false)
        ⟨4, [4, dtString, 0x09, 0x04]⟩ ∧
      CharactersTransferred ⟨4, [4, dtString, 65, 0]⟩ := by
  have hopen : (sampleOutcomes.steady 0).openDevice sampleDisk = none := rfl
  have htable : (sampleOutcomes.steady 1).getStringDescriptor sampleDisk 0 0 =
      ⟨4, [4, dtString, 0x09, 0x04]⟩ := rfl
  have hproduct : (sampleOutcomes.steady 0).getStringDescriptor sampleDisk 2 0x0409 =
      ⟨4, [4, dtString, 65, 0]⟩ := rfl
  have hiff := decoders_transferred_iff hopen htable ⟨by decide, by decide⟩ (by decide) hproduct
    sampleDescriptor [] (fun _ _ => false) (fun _ _ => false)
  exact ⟨hiff.1.mpr (by decide), hiff.2.1.mpr (by decide)⟩

/-- The sample bus with a device that stalls on every request for a string. -/
def sampleStall : Outcomes :=
  { sampleOutcomes with
    getStringDescriptor := fun _ _ _ => ⟨-9, []⟩
    getStringDescriptorAscii := fun _ _ => ⟨-9, []⟩ }

/-- **255 languages from no byte at all, and a character of half a unit.**  The request for the table
fails, and the count comes from a buffer of zeros; three bytes hold a header and half a unit, and a
character is made of it. -/
theorem decoders_not_transferred :
    (⟨-9, []⟩ : StringReply).Transferred ∧
      sampleStall.getStringDescriptor sampleDisk 0 0 = ⟨-9, []⟩ ∧
      ((getUSBExtInfoStructFromDeviceDescriptor sampleStall.steady sampleDisk sampleDescriptor {}).run
        0 (fun _ _ => false)).value.2.numLanguageIds = 255 ∧
      ¬ LanguagesTransferred sampleStall.steady sampleDisk sampleDescriptor 0 (fun _ _ => false)
        ⟨-9, []⟩ ∧
      (⟨3, [3, dtString, 65]⟩ : StringReply).Transferred ∧
      appendedPositions ⟨3, [3, dtString, 65]⟩ = [2] ∧
      ¬ CharactersTransferred ⟨3, [3, dtString, 65]⟩ := by
  have hopen : (sampleStall.steady 0).openDevice sampleDisk = none := rfl
  have hreply : (sampleStall.steady 1).getStringDescriptor sampleDisk 0 0 = ⟨-9, []⟩ := rfl
  have herror : (⟨-9, []⟩ : StringReply).Transferred := ⟨by decide, by decide⟩
  have hcount := (getUSBExtInfoStructFromDeviceDescriptor_stores hopen hreply (by decide)
    sampleDescriptor {} fun _ _ => false).1
  refine ⟨herror, rfl, hcount, ?_, ⟨by decide, by decide⟩, by decide, ?_⟩
  · rw [languagesTransferred_iff hopen hreply herror]
    decide
  · rw [charactersTransferred_iff]
    decide

/-! ## Strings told apart -/

/-- A byte as a character. -/
lemma toNat_ofNat_byte (b : UInt8) : (Char.ofNat b.toNat).toNat = b.toNat := by
  have hvalid : b.toNat.isValidChar := by
    have hbyte := b.toNat_lt
    exact Or.inl (by omega)
  rw [Char.ofNat, dif_pos hvalid]
  rfl

lemma ofNat_byte_injective : Function.Injective fun b : UInt8 => Char.ofNat b.toNat := by
  intro b b' h
  have hnat := congrArg Char.toNat h
  simp only [toNat_ofNat_byte] at hnat
  exact UInt8.toNat_inj.mp hnat

/-- Characters keep the low bytes of their units, and no more. -/
lemma map_narrow_eq_iff {units units' : List UInt16} :
    units.map narrow = units'.map narrow ↔
      units.map UInt16.toUInt8 = units'.map UInt16.toUInt8 := by
  have hmap : ∀ units : List UInt16, units.map narrow =
      (units.map UInt16.toUInt8).map fun b => Char.ofNat b.toNat := by
    intro units
    rw [List.map_map]
    rfl
  rw [hmap, hmap, ofNat_byte_injective.list_map.eq_iff]

namespace StringDescriptor

variable (descriptor : StringDescriptor)

lemma wholeString : WholeString descriptor.reply := by
  refine ⟨?_, ?_⟩
  · have hbuf := descriptor.descBuf_eq
    rw [descBuf] at hbuf
    rw [hbuf]
    rfl
  · have hlength := descriptor.bLength_eq
    rw [descBuf] at hlength
    rw [hlength]
    simp [reply]

/-- The positions of a descriptor are those of its units. -/
lemma map_characterPositions :
    ((characterPositions descriptor.descBuf).map fun i => narrow (word descriptor.descBuf i)) =
      descriptor.units.map narrow := by
  have hcount : (2 + 2 * descriptor.units.length - 1) / 2 = descriptor.units.length := by omega
  rw [characterPositions, descriptor.bLength_eq, hcount]
  refine List.ext_getElem (by simp) fun k hk hk' => ?_
  rw [List.length_map] at hk'
  simp only [List.getElem_map, List.getElem_range', descriptor.word_descBuf hk']

end StringDescriptor

/-- A descriptor that arrives is read, each unit narrowed to a character. -/
lemma getUSBDescriptorValue_descriptor {env : Env} {d : Device} {languageId : UInt16} {index : UInt8}
    {t : ℕ} {descriptor : StringDescriptor} (hindex : index ≠ 0)
    (hreply : (env t).getStringDescriptor d index languageId = descriptor.reply) (text : CxxString)
    (s : DriverState) :
    ((getUSBDescriptorValue env d languageId index text).run t s).value =
      (.errorNone, text ++ descriptor.units.map narrow) := by
  have hnonneg : 0 ≤ descriptor.reply.retValue := by
    simp only [StringDescriptor.reply]
    omega
  have hpositions := descriptor.map_characterPositions
  rw [StringDescriptor.descBuf] at hpositions
  rw [getUSBDescriptorValue_appends hindex hreply hnonneg, if_pos descriptor.wholeString,
    appendedPositions, if_pos ⟨hnonneg, descriptor.wholeString⟩, hpositions]

/-- **Two descriptors are read as different strings exactly when they differ in length or in the low
byte of a unit.** -/
theorem stringDescriptors_differ_iff {env env' : Env} {d d' : Device} {languageId languageId' : UInt16}
    {index index' : UInt8} {t t' : ℕ} {descriptor descriptor' : StringDescriptor}
    (hindex : index ≠ 0) (hindex' : index' ≠ 0)
    (hreply : (env t).getStringDescriptor d index languageId = descriptor.reply)
    (hreply' : (env' t').getStringDescriptor d' index' languageId' = descriptor'.reply)
    (s s' : DriverState) :
    (let r := ((getUSBDescriptorValue env d languageId index []).run t s).value
      let r' := ((getUSBDescriptorValue env' d' languageId' index' []).run t' s').value
      r.1 = .errorNone ∧ r'.1 = .errorNone ∧ r.2 ≠ r'.2) ↔
      descriptor.units.map UInt16.toUInt8 ≠ descriptor'.units.map UInt16.toUInt8 := by
  rw [getUSBDescriptorValue_descriptor hindex hreply, getUSBDescriptorValue_descriptor hindex' hreply']
  simp only [List.nil_append, true_and, ne_eq, map_narrow_eq_iff]

/-- A second device next to the disk. -/
def sampleOther : Device := { sampleDisk with pointer := 3, deviceAddress := 6, portChain := [3] }

/-- Two devices whose serial numbers are the letters A and Ł. -/
def sampleSerials : Outcomes :=
  { sampleOutcomes with
    getStringDescriptor := fun d _ _ =>
      if d = sampleDisk then (⟨[0x0041], by decide⟩ : StringDescriptor).reply
      else (⟨[0x0141], by decide⟩ : StringDescriptor).reply }

/-- Two devices whose serial numbers are the letters A and B. -/
def sampleLetters : Outcomes :=
  { sampleOutcomes with
    getStringDescriptor := fun d _ _ =>
      if d = sampleDisk then (⟨[0x0041], by decide⟩ : StringDescriptor).reply
      else (⟨[0x0042], by decide⟩ : StringDescriptor).reply }

/-- The condition met: A and B. -/
theorem stringDescriptors_differ_letters :
    (let r := ((getUSBDescriptorValue sampleLetters.steady sampleDisk 0x0409 3 []).run 0
        (fun _ _ => false)).value
      let r' := ((getUSBDescriptorValue sampleLetters.steady sampleOther 0x0409 3 []).run 0
        (fun _ _ => false)).value
      r.1 = .errorNone ∧ r'.1 = .errorNone ∧ r.2 ≠ r'.2) ↔
      [(0x0041 : UInt16)].map UInt16.toUInt8 ≠ [(0x0042 : UInt16)].map UInt16.toUInt8 := by
  have hindex : (3 : UInt8) ≠ 0 := by decide
  have hdisk : (sampleLetters.steady 0).getStringDescriptor sampleDisk 3 0x0409 =
      (⟨[0x0041], by decide⟩ : StringDescriptor).reply := by decide
  have hother : (sampleLetters.steady 0).getStringDescriptor sampleOther 3 0x0409 =
      (⟨[0x0042], by decide⟩ : StringDescriptor).reply := by decide
  exact stringDescriptors_differ_iff hindex hindex hdisk hother _ _

/-- **Ł is read as A.**  Both descriptors are well formed and hold different units; both serial
numbers are reported as the letter A. -/
theorem stringDescriptors_confused :
    let serial := fun d => ((getUSBDescriptorValue sampleSerials.steady d 0x0409 3 []).run 0
      (fun _ _ => false)).value
    [(0x0041 : UInt16)] ≠ [0x0141] ∧
      sampleSerials.getStringDescriptor sampleDisk 3 0x0409 = ⟨4, [4, dtString, 0x41, 0x00]⟩ ∧
      sampleSerials.getStringDescriptor sampleOther 3 0x0409 = ⟨4, [4, dtString, 0x41, 0x01]⟩ ∧
      serial sampleDisk = (.errorNone, "A".toList) ∧ serial sampleOther = (.errorNone, "A".toList) ∧
      ¬ (serial sampleDisk).2 ≠ (serial sampleOther).2 := by
  refine ⟨by decide, by decide, by decide, by decide, by decide, by decide⟩

/-! ## Strings of 7-bit characters -/

/-- A text a string descriptor can hold without loss: at most 126 characters, of seven bits. -/
structure AsciiString where
  text : CxxString
  seven_bit : ∀ c ∈ text, c.toNat < 128
  le_max : text.length ≤ 126

namespace AsciiString

/-- The text as a descriptor. -/
def descriptor (string : AsciiString) : StringDescriptor where
  units := string.text.map fun c => UInt16.ofNat c.toNat
  le_max := by simpa using string.le_max

lemma narrow_ofNat {c : Char} (hc : c.toNat < 128) : narrow (UInt16.ofNat c.toNat) = c := by
  have hbyte : (UInt16.ofNat c.toNat).toUInt8.toNat = c.toNat := by
    rw [UInt16.toNat_toUInt8, UInt16.toNat_ofNat']
    omega
  rw [narrow, hbyte, Char.ofNat_toNat]

/-- Nothing is lost. -/
lemma map_narrow (string : AsciiString) : string.descriptor.units.map narrow = string.text := by
  rw [descriptor, List.map_map]
  conv_rhs => rw [← List.map_id string.text]
  exact List.map_congr_left fun c hc => narrow_ofNat (string.seven_bit c hc)

end AsciiString

/-- The device has this string under the index, and returns it for the language; or it has none, and
the index is zero. -/
def Carries (env : Env) (d : Device) (languageId : UInt16) (index : UInt8) :
    Option AsciiString → Prop
  | none => index = 0
  | some string =>
      index ≠ 0 ∧ ∀ t, (env t).getStringDescriptor d index languageId = string.descriptor.reply

/-- The text of a string that may be absent. -/
def textOf : Option AsciiString → CxxString
  | none => []
  | some string => string.text

lemma Carries.value {env : Env} {d : Device} {languageId : UInt16} {index : UInt8}
    {string : Option AsciiString} (h : Carries env d languageId index string) (t : ℕ)
    (s : DriverState) :
    ((getUSBDescriptorValue env d languageId index []).run t s).value.2 = textOf string := by
  cases string with
  | none =>
      have hindex : index = 0 := h
      rw [getUSBDescriptorValue, if_pos hindex]
      rfl
  | some string =>
      rw [getUSBDescriptorValue_descriptor h.1 (h.2 t), string.map_narrow]
      rfl

/-- The table of a device with one language. -/
def oneLanguage (languageId : UInt16) : LanguageTable := ⟨[languageId], by simp, by simp⟩

section RoundTrip

variable {env : Env} {d : Device} {desc : DeviceDescriptor} {languageId : UInt16}
  {serialNumber manufacturer product : Option AsciiString}

/-- The three strings of a language, each in its place. -/
lemma getUSBProductInfo_carries (hserial : Carries env d languageId desc.iSerialNumber serialNumber)
    (hmanufacturer : Carries env d languageId desc.iManufacturer manufacturer)
    (hproduct : Carries env d languageId desc.iProduct product) {langBuff : List UInt8}
    {devIndex : ℕ} (hword : word langBuff devIndex = languageId) {productInfo : USBProductInfo}
    (hempty : productInfo.serialNumber = [] ∧ productInfo.manufacturer = [] ∧
      productInfo.product = []) (t : ℕ) (s : DriverState) :
    ((getUSBProductInfo env d desc langBuff devIndex productInfo).run t s).value =
      { languageId
        serialNumber := textOf serialNumber
        manufacturer := textOf manufacturer
        product := textOf product } := by
  simp only [getUSBProductInfo, Prog.bind_run, Prog.pure_run, hword, hempty.1, hempty.2.1,
    hempty.2.2, hserial.value, hmanufacturer.value, hproduct.value]

/-- The decoding branch on a table with one language. -/
lemma decodeLanguages_carries (hserial : Carries env d languageId desc.iSerialNumber serialNumber)
    (hmanufacturer : Carries env d languageId desc.iManufacturer manufacturer)
    (hproduct : Carries env d languageId desc.iProduct product) {info : USBDeviceInfo}
    (hempty : info.productInfo1.serialNumber = [] ∧ info.productInfo1.manufacturer = [] ∧
      info.productInfo1.product = []) (t : ℕ) (s : DriverState) :
    ((decodeLanguages env d desc (oneLanguage languageId).langBuff info).run t s).value =
      (.errorNone,
        { info with
          numLanguageIds := 1
          productInfo1 :=
            { languageId
              serialNumber := textOf serialNumber
              manufacturer := textOf manufacturer
              product := textOf product } }) := by
  have hcount : UInt8.ofInt (((((oneLanguage languageId).langBuff.getD 0 0).toNat : Int) - 2).tdiv 2) =
      1 := (oneLanguage languageId).numLanguageIds_eq
  have hword : word (oneLanguage languageId).langBuff 2 = languageId :=
    (oneLanguage languageId).word_langBuff (k := 0) Nat.one_pos
  have hstrings := getUSBProductInfo_carries hserial hmanufacturer hproduct hword hempty t s
  have hrange : List.range (UInt8.toNat 1) = [0] := rfl
  simp only [decodeLanguages, hcount, hrange, List.foldlM_cons, List.foldlM_nil, languageStep,
    Nat.mul_zero, Nat.add_zero, Prog.bind_run, Prog.pure_run, hstrings]

/-- **Product strings survive the trip from the device.**  For a device with one language, whatever
its id, and any serial number, manufacturer and product of 7-bit characters, absent ones included: the
call succeeds, the count is one, the id and the three texts are those of the device, the other three
product infos are as they were, and no position outside a buffer is looked at. -/
theorem productStrings_roundTrip {t : ℕ} (hopen : (env t).openDevice d = none)
    (htable : (env (t + 1)).getStringDescriptor d 0 0 = (oneLanguage languageId).reply)
    (hserial : Carries env d languageId desc.iSerialNumber serialNumber)
    (hmanufacturer : Carries env d languageId desc.iManufacturer manufacturer)
    (hproduct : Carries env d languageId desc.iProduct product) {info : USBDeviceInfo}
    (hempty : info.productInfo1.serialNumber = [] ∧ info.productInfo1.manufacturer = [] ∧
      info.productInfo1.product = []) (s : DriverState) :
    let r := (getUSBExtInfoStructFromDeviceDescriptor env d desc info).run t s
    r.value.1 = .errorNone ∧
    r.value.2 =
      { info with
        numLanguageIds := 1
        productInfo1 :=
          { languageId
            serialNumber := textOf serialNumber
            manufacturer := textOf manufacturer
            product := textOf product } } ∧
    (∀ i ∈ languagePositions r.value.2.numLanguageIds.toNat,
      i + 1 < (oneLanguage languageId).langBuff.length) ∧
    ∀ data, ∀ i ∈ characterPositions (writeBuffer zeroBuffer data),
      i + 1 < (writeBuffer zeroBuffer data).length := by
  have hshort : ¬ 4 < (oneLanguage languageId).reply.retValue := fun hlong =>
    (oneLanguage languageId).long_iff.mp hlong rfl
  have hdecoded := decodeLanguages_carries hserial hmanufacturer hproduct hempty (t + 2) s
  intro r
  have hrun : r.value =
      ((decodeLanguages env d desc (oneLanguage languageId).langBuff info).run (t + 2) s).value := by
    simp only [r, getUSBExtInfoStructFromDeviceDescriptor_run hopen, htable, hshort, if_false,
      LanguageTable.langBuff]
  rw [hrun, hdecoded]
  exact ⟨rfl, rfl, fun i hi => languagePositions_lt_length _ hi,
    fun data i hi => characterPositions_lt_length data hi⟩

end RoundTrip

/-- The sample disk, whose strings are all `A`; here without a manufacturer. -/
theorem productStrings_roundTrip_sampleDisk :
    let r := (getUSBExtInfoStructFromDeviceDescriptor sampleOutcomes.steady sampleDisk
      { sampleDescriptor with iManufacturer := 0 } {}).run 0 (fun _ _ => false)
    r.value.1 = .errorNone ∧
    r.value.2 =
      { numLanguageIds := 1
        productInfo1 := ⟨0x0409, "A".toList, [], "A".toList⟩ } ∧
    (∀ i ∈ languagePositions r.value.2.numLanguageIds.toNat,
      i + 1 < (oneLanguage 0x0409).langBuff.length) ∧
    ∀ data, ∀ i ∈ characterPositions (writeBuffer zeroBuffer data),
      i + 1 < (writeBuffer zeroBuffer data).length := by
  have hopen : (sampleOutcomes.steady 0).openDevice sampleDisk = none := rfl
  have htable : (sampleOutcomes.steady 1).getStringDescriptor sampleDisk 0 0 =
      (oneLanguage 0x0409).reply := by decide
  have hletter : ∀ index : UInt8, index ≠ 0 →
      Carries sampleOutcomes.steady sampleDisk 0x0409 index
        (some ⟨"A".toList, by simp, by simp⟩) := by
    intro index hindex
    refine ⟨hindex, fun t => ?_⟩
    simp only [Outcomes.steady, sampleOutcomes, hindex, if_false]
    decide
  have hnone : Carries sampleOutcomes.steady sampleDisk 0x0409 0 none := rfl
  let desc : DeviceDescriptor := { sampleDescriptor with iManufacturer := 0 }
  have hserial := hletter desc.iSerialNumber (by decide)
  have hproduct := hletter desc.iProduct (by decide)
  let fresh : USBDeviceInfo := {}
  have hempty : fresh.productInfo1.serialNumber = [] ∧ fresh.productInfo1.manufacturer = [] ∧
      fresh.productInfo1.product = [] := ⟨rfl, rfl, rfl⟩
  exact productStrings_roundTrip hopen htable hserial hnone hproduct hempty _

end Usb
