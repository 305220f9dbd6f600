import USBDevicePlugin.Device.BlockDevice

/-!
# The kernel's device tree

What the search for a disk is for.  The kernel keeps one tree of devices, with directories for the
USB devices and for the block devices made of them, and shows it as files: numbers in decimal with a
line end, links from the block directory into the tree, the serial number under the device's name.
The plugin goes the other way, from the files to the device a block device is part of.

* `Kernel` — the tree, `Kernel.sysfs` — the files it is shown as.
* `Kernel.DiskOf` — which disks are made of a USB device, said of the tree.
* `readInt_toDigits`, `CanonicalPath.string_injective` — numbers and paths are read as they were
  written.
* **`kernelTree_scan`** — on the files of any tree, the scan finds the device's own disk and serial
  number.
-/

namespace Usb

open Interaction Search

/-! ## Numbers and paths as text -/

/-- **A number and a line end are read as the number.** -/
lemma readInt_toDigits {n : ℕ} (hn : n ≤ 2147483647) :
    readInt (Nat.toDigits 10 n ++ "\n".toList) = some (n : Int) := by
  have hdigits : ∀ c ∈ Nat.toDigits 10 n, c.isDigit = true := fun c hc =>
    Nat.isDigit_of_mem_toDigits (by decide) (by decide) hc
  obtain ⟨first, rest, heq⟩ := List.exists_cons_of_ne_nil (Nat.toDigits_ne_nil (n := n) (b := 10))
  have hfirst := hdigits first (by simp [heq])
  have hspace : isSpace first = false := by
    rw [isSpace, decide_eq_false_iff_not]
    intro hmem
    simp only [List.mem_cons, List.not_mem_nil, or_false] at hmem
    rcases hmem with rfl | rfl | rfl | rfl | rfl | rfl <;> exact absurd hfirst (by decide)
  have hminus : first ≠ '-' := by
    rintro rfl
    exact absurd hfirst (by decide)
  have hplus : first ≠ '+' := by
    rintro rfl
    exact absurd hfirst (by decide)
  have htext : (Nat.toDigits 10 n ++ "\n".toList).dropWhile isSpace =
      Nat.toDigits 10 n ++ "\n".toList := by
    rw [heq, List.cons_append, List.dropWhile_cons_of_neg (by simp [hspace])]
  have htake : (Nat.toDigits 10 n ++ "\n".toList).takeWhile Char.isDigit = Nat.toDigits 10 n := by
    rw [List.takeWhile_append_of_pos hdigits]
    simp
  have hhead : (Nat.toDigits 10 n ++ "\n".toList).head? = some first := by simp [heq]
  simp only [readInt, htext, hhead, Option.some.injEq, hminus, hplus, or_self, if_false, htake,
    Nat.toDigits_ne_nil, Nat.ofDigitChars_ten_toDigits]
  rw [if_pos]
  omega

/-- A path whose components are names. -/
def CanonicalPath.Plain (path : CanonicalPath) : Prop := ∀ name ∈ path, '/' ∉ name

instance (path : CanonicalPath) : Decidable path.Plain :=
  inferInstanceAs (Decidable (∀ name ∈ path, '/' ∉ name))

lemma CanonicalPath.string_cons (name : CxxString) : ∀ path : CanonicalPath,
    CanonicalPath.string (name :: path) = '/' :: ['/'].intercalate (name :: path)
  | [] => by simp [CanonicalPath.string]
  | name' :: path => by
      have ih := CanonicalPath.string_cons name' path
      simp only [CanonicalPath.string, reduceCtorEq, if_false] at ih ⊢
      rw [List.flatMap_cons, ih, List.intercalate_cons_cons]
      simp

/-- **The components of a path can be told from its text.** -/
lemma CanonicalPath.string_injective {path path' : CanonicalPath} (hpath : path.Plain)
    (hpath' : path'.Plain) (hne : path ≠ []) (hne' : path' ≠ [])
    (h : path.string = path'.string) : path = path' := by
  have hsplit : ∀ {path : CanonicalPath}, path.Plain → path ≠ [] →
      path.string.tail.splitOn '/' = path := by
    intro path hplain hne
    obtain ⟨name, rest, rfl⟩ := List.exists_cons_of_ne_nil hne
    rw [CanonicalPath.string_cons, List.tail_cons, List.splitOn_intercalate '/' hplain hne]
  rw [← hsplit hpath hne, h, hsplit hpath' hne']

lemma string_append (dir : CanonicalPath) (name : CxxString) :
    CanonicalPath.string (dir ++ [name]) = dir.flatMap ('/' :: ·) ++ '/' :: name := by
  simp [CanonicalPath.string]

lemma busnumFile_eq (dir : CanonicalPath) :
    busnumFile dir = dir.flatMap ('/' :: ·) ++ "/busnum".toList := string_append dir _

lemma devnumFile_eq (dir : CanonicalPath) :
    devnumFile dir = dir.flatMap ('/' :: ·) ++ "/devnum".toList := string_append dir _

/-- Paths that end differently are different. -/
lemma append_ne_append {front front' name name' : CxxString} (hlength : name.length = name'.length)
    (hne : name ≠ name') : front ++ name ≠ front' ++ name' := fun h =>
  hne (List.append_inj_right' h hlength)

lemma busnumFile_ne_devnumFile (dir dir' : CanonicalPath) : busnumFile dir ≠ devnumFile dir' := by
  rw [busnumFile_eq, devnumFile_eq]
  exact append_ne_append (by decide) (by decide)

lemma busnumFile_ne_serialFile (dir : CanonicalPath) (path : CxxString) :
    busnumFile dir ≠ serialFile path := by
  rw [busnumFile_eq, serialFile]
  exact append_ne_append (by decide) (by decide)

lemma devnumFile_ne_serialFile (dir : CanonicalPath) (path : CxxString) :
    devnumFile dir ≠ serialFile path := by
  rw [devnumFile_eq, serialFile]
  exact append_ne_append (by decide) (by decide)

/-- The files of two directories are different files. -/
lemma CanonicalPath.Plain.eq_of_string_append {dir dir' : CanonicalPath} (hdir : dir.Plain)
    (hdir' : dir'.Plain) {name : CxxString} (hname : '/' ∉ name)
    (h : CanonicalPath.string (dir ++ [name]) = CanonicalPath.string (dir' ++ [name])) :
    dir = dir' := by
  have hplain : ∀ {dir : CanonicalPath}, dir.Plain → (dir ++ [name]).Plain := by
    intro dir hdir component hmem
    rcases List.mem_append.mp hmem with hmem | hmem
    · exact hdir component hmem
    · exact List.mem_singleton.mp hmem ▸ hname
  have hsame := CanonicalPath.string_injective (hplain hdir) (hplain hdir') (by simp) (by simp) h
  exact List.append_cancel_right hsame

/-! ## The tree -/

/-- A USB device: its directory, its address, the ports on the way to it (none for a root hub), and
its serial number, if it has one. -/
structure UsbNode where
  dir : CanonicalPath
  busnum : UInt8
  devnum : UInt8
  ports : List UInt8
  serial : Option CxxString
  deriving DecidableEq

/-- The name of its link in `/sys/bus/usb/devices`. -/
def UsbNode.name (n : UsbNode) : CxxString :=
  Nat.toDigits 10 n.busnum.toNat ++ '-' :: Decimal.joined '.' (n.ports.map UInt8.toNat)

/-- An entry of the block directory, and the directory its `device` link leads to, if it has one. -/
structure Block where
  name : CxxString
  device : Option CanonicalPath
  deriving DecidableEq

/-- The device tree, as far as the plugin looks at it. -/
structure Kernel where
  nodes : List UsbNode
  blocks : List Block
  plain_dir : ∀ n ∈ nodes, n.dir.Plain
  plain_device : ∀ b ∈ blocks, ∀ path ∈ b.device, CanonicalPath.Plain path
  serial_line : ∀ n ∈ nodes, ∀ serial ∈ n.serial, '\n' ∉ serial
  dir_nodup : (nodes.map UsbNode.dir).Nodup
  address_nodup : (nodes.map fun n => (n.busnum, n.devnum)).Nodup
  place_nodup : (nodes.map fun n => (n.busnum, n.ports)).Nodup
  block_nodup : (blocks.map Block.name).Nodup

namespace Kernel

variable (K : Kernel)

/-- The USB device a directory belongs to: the deepest above it. -/
structure Above (path : CanonicalPath) (n : UsbNode) : Prop where
  mem : n ∈ K.nodes
  above : n.dir <+: path
  deepest : ∀ n' ∈ K.nodes, n'.dir <+: path → n'.dir.length ≤ n.dir.length

/-- A disk made of a USB device, not too far below it. -/
def DiskOf (n : UsbNode) (b : Block) : Prop :=
  "sd".toList <+: b.name ∧
    ∃ path, b.device = some path ∧ K.Above path n ∧ path.length < n.dir.length + 10

/-! ## The files -/

end Kernel

/-- A number, or a text, with a line end. -/
def line (text : CxxString) : CxxString := text ++ "\n".toList

/-- The files of a USB device. -/
def UsbNode.file (n : UsbNode) (path : CxxString) : Option CxxString :=
  if path = busnumFile n.dir then some (line (Nat.toDigits 10 n.busnum.toNat))
  else if path = devnumFile n.dir then some (line (Nat.toDigits 10 n.devnum.toNat))
  else if n.ports ≠ [] ∧ path = serialFile n.name then n.serial.map line
  else none

namespace Kernel

variable (K : Kernel)

/-- What the tree looks like from outside. -/
def sysfs : Sysfs where
  directory path :=
    if path = pluginUsbDeviceBlockPath then some (K.blocks.map Block.name) else none
  canonical path :=
    (K.blocks.find? fun b => path = deviceLink pluginUsbDeviceBlockPath b.name).bind Block.device
  isRegularFile path :=
    some (K.nodes.any fun n => path = busnumFile n.dir || path = devnumFile n.dir)
  contents path := K.nodes.findSome? fun n => n.file path

variable {K} {n n' : UsbNode}

lemma eq_of_dir (hn : n ∈ K.nodes) (hn' : n' ∈ K.nodes) (h : n.dir = n'.dir) : n = n' :=
  List.inj_on_of_nodup_map K.dir_nodup hn hn' h

lemma eq_of_address (hn : n ∈ K.nodes) (hn' : n' ∈ K.nodes) (hbus : n.busnum = n'.busnum)
    (hdev : n.devnum = n'.devnum) : n = n' :=
  List.inj_on_of_nodup_map K.address_nodup hn hn' (Prod.ext hbus hdev)

/-- Names are read back, so they are different. -/
lemma eq_of_name (hn : n ∈ K.nodes) (hn' : n' ∈ K.nodes) (hports : n.ports ≠ [])
    (hports' : n'.ports ≠ []) (h : n.name = n'.name) : n = n' := by
  have hplace : ∀ {n : UsbNode}, n.ports ≠ [] →
      decodeSysfsPath n.name = (n.busnum.toNat, n.ports.map UInt8.toNat) := fun hports =>
    decodeSysfsPath_eq _ (by simpa using hports)
  have hsame := hplace hports
  rw [h, hplace hports'] at hsame
  obtain ⟨hbus, hchain⟩ := Prod.mk.inj hsame
  have hinj : Function.Injective UInt8.toNat := fun a b hab => UInt8.toNat_inj.mp hab
  exact List.inj_on_of_nodup_map K.place_nodup hn hn'
    (Prod.ext (UInt8.toNat_inj.mp hbus).symm (hinj.list_map hchain).symm)

/-- The three files of a device. -/
lemma file_cases {path text : CxxString} (h : n.file path = some text) :
    path = busnumFile n.dir ∧ text = line (Nat.toDigits 10 n.busnum.toNat) ∨
      path = devnumFile n.dir ∧ text = line (Nat.toDigits 10 n.devnum.toNat) ∨
      n.ports ≠ [] ∧ path = serialFile n.name ∧ n.serial.map line = some text := by
  unfold UsbNode.file at h
  split_ifs at h with hbus hdev hserial
  · exact Or.inl ⟨hbus, (Option.some.inj h).symm⟩
  · exact Or.inr (Or.inl ⟨hdev, (Option.some.inj h).symm⟩)
  · exact Or.inr (Or.inr ⟨hserial.1, hserial.2, h⟩)

lemma contents_busnum (hn : n ∈ K.nodes) :
    K.sysfs.contents (busnumFile n.dir) = some (line (Nat.toDigits 10 n.busnum.toNat)) := by
  refine findSome?_eq_some hn (by simp [UsbNode.file]) fun n' hn' text hfile => ?_
  rcases file_cases hfile with ⟨hpath, rfl⟩ | ⟨hpath, -⟩ | ⟨-, hpath, -⟩
  · rw [eq_of_dir hn hn' ((K.plain_dir n hn).eq_of_string_append (K.plain_dir n' hn') (by decide)
      hpath)]
  · exact absurd hpath (busnumFile_ne_devnumFile _ _)
  · exact absurd hpath (busnumFile_ne_serialFile _ _)

lemma contents_devnum (hn : n ∈ K.nodes) :
    K.sysfs.contents (devnumFile n.dir) = some (line (Nat.toDigits 10 n.devnum.toNat)) := by
  refine findSome?_eq_some hn ?_ fun n' hn' text hfile => ?_
  · rw [UsbNode.file, if_neg (busnumFile_ne_devnumFile _ _).symm, if_pos rfl]
  rcases file_cases hfile with ⟨hpath, -⟩ | ⟨hpath, rfl⟩ | ⟨-, hpath, -⟩
  · exact absurd hpath.symm (busnumFile_ne_devnumFile _ _)
  · rw [eq_of_dir hn hn' ((K.plain_dir n hn).eq_of_string_append (K.plain_dir n' hn') (by decide)
      hpath)]
  · exact absurd hpath (devnumFile_ne_serialFile _ _)

lemma contents_serial (hn : n ∈ K.nodes) (hports : n.ports ≠ []) :
    K.sysfs.contents (serialFile n.name) = n.serial.map line := by
  have hfile : n.file (serialFile n.name) = n.serial.map line := by
    rw [UsbNode.file, if_neg (busnumFile_ne_serialFile _ _).symm,
      if_neg (devnumFile_ne_serialFile _ _).symm, if_pos ⟨hports, rfl⟩]
  have hown : ∀ n' ∈ K.nodes, ∀ text, n'.file (serialFile n.name) = some text →
      n.serial.map line = some text := by
    intro n' hn' text hfile'
    rcases file_cases hfile' with ⟨hpath, -⟩ | ⟨hpath, -⟩ | ⟨hports', hpath, htext⟩
    · exact absurd hpath.symm (busnumFile_ne_serialFile _ _)
    · exact absurd hpath.symm (devnumFile_ne_serialFile _ _)
    · rwa [eq_of_name hn hn' hports hports' (serialFile_injective hpath)]
  cases hserial : n.serial.map line with
  | none =>
      refine List.findSome?_eq_none_iff.mpr fun n' hn' => ?_
      cases hfile' : n'.file (serialFile n.name) with
      | none => rfl
      | some text =>
          have hnone := hown n' hn' text hfile'
          rw [hserial] at hnone
          cases hnone
  | some text =>
      refine findSome?_eq_some hn (hfile.trans hserial) fun n' hn' text' hfile' => ?_
      exact Option.some.inj ((hown n' hn' text' hfile').symm.trans hserial)

lemma readInt_byte (b : UInt8) : readInt (line (Nat.toDigits 10 b.toNat)) = some (b.toNat : Int) :=
  readInt_toDigits (by have := b.toNat_lt; omega)

/-- Wherever there is a number, it is a byte. -/
lemma byteNumbers (K : Kernel) : ByteNumbers K.sysfs := by
  intro dir path hpath k hk
  obtain ⟨text, htext, hread⟩ := Option.bind_eq_some_iff.mp hk
  obtain ⟨n, -, hfile⟩ := List.exists_of_findSome?_eq_some htext
  have hbyte : ∀ b : UInt8, readInt (line (Nat.toDigits 10 b.toNat)) = some k → 0 ≤ k ∧ k ≤ 255 := by
    intro b hb
    rw [readInt_byte, Option.some.injEq] at hb
    have := b.toNat_lt
    omega
  rcases file_cases hfile with ⟨-, rfl⟩ | ⟨-, rfl⟩ | ⟨-, hserial, -⟩
  · exact hbyte _ hread
  · exact hbyte _ hread
  · simp only [List.mem_cons, List.not_mem_nil, or_false] at hpath
    rcases hpath with rfl | rfl
    · exact absurd hserial (busnumFile_ne_serialFile _ _)
    · exact absurd hserial (devnumFile_ne_serialFile _ _)

lemma isRegularFile_eq_true_iff {path : CxxString} :
    K.sysfs.isRegularFile path = some true ↔
      ∃ n ∈ K.nodes, path = busnumFile n.dir ∨ path = devnumFile n.dir := by
  simp [sysfs, List.any_eq_true]

/-- The USB nodes among the directories are those of the tree. -/
lemma hasAddressFiles_iff {dir : CanonicalPath} (hdir : dir.Plain) :
    HasAddressFiles K.sysfs dir ↔ ∃ n ∈ K.nodes, n.dir = dir := by
  rw [HasAddressFiles, isRegularFile_eq_true_iff, isRegularFile_eq_true_iff]
  constructor
  · rintro ⟨⟨n, hn, hbus | hdev⟩, -⟩
    · exact ⟨n, hn, (hdir.eq_of_string_append (K.plain_dir n hn) (by decide) hbus).symm⟩
    · exact absurd hdev (busnumFile_ne_devnumFile _ _)
  · rintro ⟨n, hn, rfl⟩
    exact ⟨⟨n, hn, Or.inl rfl⟩, n, hn, Or.inr rfl⟩

/-- The walk ends at the device a directory belongs to, if that is not too far up. -/
lemma isUsbNode_iff_above {path dir : CanonicalPath} (hpath : path.Plain) :
    IsUsbNode K.sysfs path dir ↔
      ∃ n, K.Above path n ∧ n.dir = dir ∧ path.length < n.dir.length + 10 := by
  have hplain : ∀ {dir : CanonicalPath}, dir <+: path → dir.Plain := fun habove name hname =>
    hpath name (habove.subset hname)
  rw [isUsbNode_iff fun _ => by simp [sysfs], mem_take_ancestors]
  constructor
  · rintro ⟨⟨hup, hnear⟩, hfiles, hdeepest⟩
    obtain ⟨n, hn, rfl⟩ := (hasAddressFiles_iff (hplain hup)).mp hfiles
    refine ⟨n, ⟨hn, hup, fun n' hn' hup' => ?_⟩, rfl, hnear⟩
    -- a deeper one would be within reach
    by_contra hdeeper
    have hle := hdeepest n'.dir (mem_take_ancestors.mpr ⟨hup', by omega⟩)
      ((hasAddressFiles_iff (hplain hup')).mpr ⟨n', hn', rfl⟩)
    exact hdeeper hle
  · rintro ⟨n, habove, rfl, hnear⟩
    refine ⟨⟨habove.above, hnear⟩, ?_, fun dir' hdir' hfiles' => ?_⟩
    · exact (hasAddressFiles_iff (hplain habove.above)).mpr ⟨n, habove.mem, rfl⟩
    · have hup' := (mem_take_ancestors.mp hdir').1
      obtain ⟨n', hn', rfl⟩ := (hasAddressFiles_iff (hplain hup')).mp hfiles'
      exact habove.deepest n' hn' hup'

end Kernel

/-! ## The scan -/

/-- What libusb reports of a USB device. -/
structure UsbNode.Reported (n : UsbNode) (d : Device) : Prop where
  busNumber : d.busNumber = n.busnum
  deviceAddress : d.deviceAddress = n.devnum
  portChain : d.portChain = n.ports

namespace Kernel

variable {K : Kernel} {n : UsbNode} {d : Device}

lemma canonical_deviceLink {b : Block} (hb : b ∈ K.blocks) :
    K.sysfs.canonical (deviceLink pluginUsbDeviceBlockPath b.name) = b.device := by
  have hfind : (K.blocks.find? fun b' => deviceLink pluginUsbDeviceBlockPath b.name =
      deviceLink pluginUsbDeviceBlockPath b'.name) = some b := by
    refine find?_eq_some hb (by simp) fun b' hb' hlink => ?_
    have hname : b'.name = b.name := by
      have hlink' := of_decide_eq_true hlink
      simp only [deviceLink, List.append_assoc] at hlink'
      exact (List.append_cancel_right (List.append_cancel_left
        (List.append_cancel_left hlink'))).symm
    exact List.inj_on_of_nodup_map K.block_nodup hb' hb hname
  simp only [sysfs, hfind, Option.bind_some]

/-- **The files tell which disks are made of a device.** -/
lemma belongsTo_iff_diskOf (hn : n ∈ K.nodes) (hd : n.Reported d) {b : Block} (hb : b ∈ K.blocks) :
    BelongsTo K.sysfs d b.name ↔ K.DiskOf n b := by
  have hbusnum : ∀ n' ∈ K.nodes, numberIn K.sysfs (busnumFile n'.dir) = some (n'.busnum.toNat : Int) :=
    fun n' hn' => by rw [numberIn, contents_busnum hn', Option.bind_some, readInt_byte]
  have hdevnum : ∀ n' ∈ K.nodes, numberIn K.sysfs (devnumFile n'.dir) = some (n'.devnum.toNat : Int) :=
    fun n' hn' => by rw [numberIn, contents_devnum hn', Option.bind_some, readInt_byte]
  rw [BelongsTo, DiskOf, canonical_deviceLink hb, hd.busNumber, hd.deviceAddress]
  refine and_congr_right fun _ => ⟨?_, ?_⟩
  · rintro ⟨path, dir, hdevice, hnode, hbus, hdev⟩
    obtain ⟨n', habove, rfl, hnear⟩ :=
      (isUsbNode_iff_above (K.plain_device b hb path hdevice)).mp hnode
    rw [hbusnum n' habove.mem, Option.some.injEq, Nat.cast_inj, UInt8.toNat_inj] at hbus
    rw [hdevnum n' habove.mem, Option.some.injEq, Nat.cast_inj, UInt8.toNat_inj] at hdev
    obtain rfl := eq_of_address habove.mem hn hbus hdev
    exact ⟨path, hdevice, habove, hnear⟩
  · rintro ⟨path, hdevice, habove, hnear⟩
    exact ⟨path, n.dir, hdevice,
      (isUsbNode_iff_above (K.plain_device b hb path hdevice)).mpr ⟨n, habove, rfl, hnear⟩,
      hbusnum n hn, hdevnum n hn⟩

/-- A disk is made of one device only. -/
lemma DiskOf.eq {n' : UsbNode} {b : Block} (h : K.DiskOf n b) (h' : K.DiskOf n' b) : n = n' := by
  obtain ⟨-, path, hdevice, habove, -⟩ := h
  obtain ⟨-, path', hdevice', habove', -⟩ := h'
  obtain rfl : path = path' := Option.some.inj (hdevice.symm.trans hdevice')
  have hle := habove.deepest n' habove'.mem habove'.above
  have hge := habove'.deepest n habove.mem habove.above
  have hnested := List.prefix_of_prefix_length_le habove.above habove'.above hge
  exact eq_of_dir habove.mem habove'.mem (hnested.eq_of_length_le hle)

lemma getUSBDeviceSysfsPath_eq_name (hd : n.Reported d) (hplace : HasPlace d) :
    getUSBDeviceSysfsPath d = some n.name := by
  rw [getUSBDeviceSysfsPath_eq hplace, hd.busNumber, hd.portChain]
  rfl

lemma getline_line {text : CxxString} (h : '\n' ∉ text) : getline (line text) = text := by
  have hall : ∀ c ∈ text, decide (c ≠ '\n') = true := fun c hc =>
    decide_eq_true fun heq => h (heq ▸ hc)
  rw [getline, line, List.takeWhile_append_of_pos hall]
  simp

/-- **The scan undoes what the kernel did.**  On the files of any device tree, a device with a place in
it is given the path of the first disk listed that is made of it, which is made of no other device, or
the caller's path if there is none; and its own serial number, or the caller's if it has none. -/
theorem kernelTree_scan (hn : n ∈ K.nodes) (hd : n.Reported d) (hplace : HasPlace d) {env : Env}
    {t : ℕ} (hfs : (env t).sysfs = K.sysfs) (devPath deviceSerialNumber : CxxString)
    (s : DriverState) :
    let r := (getDevicePathFromDevice env d devPath deviceSerialNumber).run t s
    ((∃ earlier b later, K.blocks = earlier ++ b :: later ∧ K.DiskOf n b ∧
        (∀ other ∈ earlier, ¬ K.DiskOf n other) ∧
        (∀ n' ∈ K.nodes, K.DiskOf n' b → n' = n) ∧ r.value.1 = "/dev/".toList ++ b.name) ∨
      (∀ b ∈ K.blocks, ¬ K.DiskOf n b) ∧ r.value.1 = devPath) ∧
    r.value.2 = n.serial.getD deviceSerialNumber := by
  have hname := getUSBDeviceSysfsPath_eq_name hd hplace
  have hcheck : ∀ b ∈ K.blocks, Matches K.sysfs d b.name = true ↔ K.DiskOf n b := fun b hb =>
    (matches_iff_belongsTo (byteNumbers K) d b.name).trans (belongsTo_iff_diskOf hn hd hb)
  intro r
  have hpath : r.value.1 = _ := getDevicePathFromDevice_value env d devPath deviceSerialNumber t s
  have hserial : r.value.2 = _ := getDevicePathFromDevice_serial hname env devPath
    deviceSerialNumber t s
  have hlisted : (K.sysfs.directory pluginUsbDeviceBlockPath).getD [] = K.blocks.map Block.name := by
    simp [sysfs]
  rw [hfs, blockDevicePath_eq hname, hlisted, List.find?_map] at hpath
  constructor
  · cases hfind : K.blocks.find? (Matches K.sysfs d ∘ Block.name) with
    | none =>
        refine Or.inr ⟨fun b hb hdisk => ?_, by rw [hpath, hfind]; rfl⟩
        exact List.find?_eq_none.mp hfind b hb ((hcheck b hb).mpr hdisk)
    | some b =>
        obtain ⟨hmatches, earlier, later, hsplit, hearlier⟩ :=
          List.find?_eq_some_iff_append.mp hfind
        have hdisk : K.DiskOf n b := (hcheck b (by simp [hsplit])).mp hmatches
        refine Or.inl ⟨earlier, b, later, hsplit, hdisk, fun other hother hdisk' => ?_,
          fun n' _ hdisk' => hdisk'.eq hdisk, by rw [hpath, hfind]; rfl⟩
        have hmiss : ¬ Matches K.sysfs d other.name = true := by simpa using hearlier other hother
        exact hmiss ((hcheck other (by simp [hsplit, hother])).mpr hdisk')
  · have hports : n.ports ≠ [] := by
      have hpos := hplace.1
      rw [hd.portChain] at hpos
      exact List.ne_nil_of_length_pos hpos
    rw [hserial, hfs, getDeviceSerialNumber_eq, serialPath_eq_serialFile hplace hname,
      contents_serial hn hports]
    cases hown : n.serial with
    | none => rfl
    | some serial => simp [getline_line (K.serial_line n hn serial hown)]

end Kernel

/-- A stick on port 3 of a hub. -/
def sampleStickNode : UsbNode where
  dir := ["sys".toList, "usb1".toList, "1-1".toList, "1-1.3".toList]
  busnum := 1
  devnum := 7
  ports := [1, 3]
  serial := some "4711".toList

/-- The hub is on port 1 of the bus, and the kernel made `sdb` of the stick.  The disk `sda` is not on
USB, and `loop0` is no device at all. -/
def sampleKernel : Kernel where
  nodes :=
    [{ dir := ["sys".toList, "usb1".toList, "1-1".toList], busnum := 1, devnum := 2, ports := [1],
        serial := none },
      sampleStickNode]
  blocks :=
    [⟨"loop0".toList, none⟩, ⟨"sda".toList, some ["sys".toList, "ata1".toList]⟩,
      ⟨"sdb".toList, some ["sys".toList, "usb1".toList, "1-1".toList, "1-1.3".toList,
        "host0".toList]⟩]
  plain_dir := by decide
  plain_device := by decide
  serial_line := by decide
  dir_nodup := by decide
  address_nodup := by decide
  place_nodup := by decide
  block_nodup := by decide

/-- What libusb reports of the stick. -/
def sampleStick : Device :=
  { pointer := 3, busNumber := 1, deviceAddress := 7, portChain := [1, 3], portNumber := 3, speed := 3 }

def sampleKernelOutcomes : Outcomes := { sampleOutcomes with sysfs := sampleKernel.sysfs }

/-- The stick, in the sample tree. -/
theorem kernelTree_scan_sampleStick :
    let r := (getDevicePathFromDevice sampleKernelOutcomes.steady sampleStick [] []).run 0
      (fun _ _ => false)
    ((∃ earlier b later, sampleKernel.blocks = earlier ++ b :: later ∧
        sampleKernel.DiskOf sampleStickNode b ∧
        (∀ other ∈ earlier, ¬ sampleKernel.DiskOf sampleStickNode other) ∧
        (∀ n' ∈ sampleKernel.nodes, sampleKernel.DiskOf n' b → n' = sampleStickNode) ∧
        r.value.1 = "/dev/".toList ++ b.name) ∨
      (∀ b ∈ sampleKernel.blocks, ¬ sampleKernel.DiskOf sampleStickNode b) ∧ r.value.1 = []) ∧
    r.value.2 = sampleStickNode.serial.getD [] :=
  Kernel.kernelTree_scan (by decide) ⟨rfl, rfl, rfl⟩ (by decide) rfl [] [] _

set_option maxRecDepth 2000 in
example : ((getDevicePathFromDevice sampleKernelOutcomes.steady sampleStick [] []).run 0
    (fun _ _ => false)).value = ("/dev/sdb".toList, "4711".toList) := by decide

end Usb
