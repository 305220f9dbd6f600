import USBDevicePlugin.Core.Search
import USBDevicePlugin.Device.Struct
import USBDevicePlugin.Device.SysfsPath

/-!
# The disk of a device

What the search for a block device finds, said without the search.  An entry of the block directory
belongs to a USB device if the nearest directory above it that has both a `busnum` and a `devnum` file
carries the device's bus number and address.

* `IsUsbNode`, `BelongsTo` — the USB node above a directory, and the meaning of an entry belonging to a
  device; `LeadsTo` is the latter for files that hold any numbers.
* **`findUsbAddressFiles_nearest`** — the ancestor walk is short and ends at the nearest USB node.
* **`getDevicePathFromDevice_belongs`** — the path reported is that of the first entry that belongs to
  the device, and the serial number is the device's own.
* **`devicePath_order_iff`** — it depends on the order of the block directory if two entries belong to
  the device, and only then.
-/

namespace Usb

open Interaction Search

/-! ## The ancestor walk -/

/-- The link from a block device to its place in the device tree. -/
def deviceLink (dirPath deviceName : CxxString) : CxxString :=
  dirPath ++ "/".toList ++ deviceName ++ "/device".toList

/-- The `busnum` file of a directory. -/
def busnumFile (dir : CanonicalPath) : CxxString :=
  CanonicalPath.string (dir ++ [pluginUsbDeviceBusNum])

/-- The `devnum` file of a directory. -/
def devnumFile (dir : CanonicalPath) : CxxString :=
  CanonicalPath.string (dir ++ [pluginUsbDeviceDevAddr])

/-- The condition in the loop, as it is evaluated: the second file is looked at only if the first is
there, and either look may throw. -/
def checkAddressFiles (fs : Sysfs) (dir : CanonicalPath) : Option Bool :=
  match fs.isRegularFile (busnumFile dir) with
  | none => none
  | some false => some false
  | some true => fs.isRegularFile (devnumFile dir)

/-- The directory is a USB node: both files are there. -/
def HasAddressFiles (fs : Sysfs) (dir : CanonicalPath) : Prop :=
  fs.isRegularFile (busnumFile dir) = some true ∧ fs.isRegularFile (devnumFile dir) = some true

lemma checkAddressFiles_eq_true_iff {fs : Sysfs} {dir : CanonicalPath} :
    checkAddressFiles fs dir = some true ↔ HasAddressFiles fs dir := by
  unfold checkAddressFiles HasAddressFiles
  split <;> simp_all

lemma checkAddressFiles_ne_none {fs : Sysfs} (hchecks : ∀ path, fs.isRegularFile path ≠ none)
    (dir : CanonicalPath) : checkAddressFiles fs dir ≠ none := by
  unfold checkAddressFiles
  split
  · next h => exact absurd h (hchecks _)
  · simp
  · exact hchecks _

/-- The nearest USB node at or above a directory, looking at ten directories.  A nearer one must have
been seen to lack a file; one whose check throws leaves the question open. -/
def IsUsbNode (fs : Sysfs) (path dir : CanonicalPath) : Prop :=
  IsNearest (checkAddressFiles fs) 10 path dir

/-- If no look throws, it is the deepest of the ten that has both files. -/
lemma isUsbNode_iff {fs : Sysfs} (hchecks : ∀ path, fs.isRegularFile path ≠ none)
    {path dir : CanonicalPath} :
    IsUsbNode fs path dir ↔
      dir ∈ (ancestors path).take 10 ∧ HasAddressFiles fs dir ∧
        ∀ dir' ∈ (ancestors path).take 10, HasAddressFiles fs dir' → dir'.length ≤ dir.length := by
  simp only [IsUsbNode, isNearest_iff (checkAddressFiles_ne_none hchecks),
    checkAddressFiles_eq_true_iff]

/-- `findUsbAddressFilesLoop`, with a record of the directories it looks into. -/
def findUsbAddressFilesTraced (fs : Sysfs) :
    ℕ → CanonicalPath → List CanonicalPath × Option (CxxString × CxxString)
  | 0, _ => ([], none)
  | maxTraversalDepth + 1, currentPath =>
      let next :=
        if currentPath = [] then ([], none)
        else findUsbAddressFilesTraced fs maxTraversalDepth currentPath.dropLast
      let rest :=
        match fs.isRegularFile (busnumFile currentPath) with
        | none => ([], none)
        | some false => next
        | some true =>
            match fs.isRegularFile (devnumFile currentPath) with
            | none => ([], none)
            | some false => next
            | some true => ([], some (busnumFile currentPath, devnumFile currentPath))
      (currentPath :: rest.1, rest.2)

/-- One turn of the loop, with the condition as one value. -/
lemma findUsbAddressFilesLoop_succ (fs : Sysfs) (depth : ℕ) (path : CanonicalPath) :
    findUsbAddressFilesLoop fs (depth + 1) path =
      match checkAddressFiles fs path with
      | none => none
      | some true => some (busnumFile path, devnumFile path)
      | some false =>
          if path = [] then none else findUsbAddressFilesLoop fs depth path.dropLast := by
  simp only [findUsbAddressFilesLoop, checkAddressFiles, busnumFile, devnumFile]
  cases fs.isRegularFile (CanonicalPath.string (path ++ [pluginUsbDeviceBusNum])) with
  | none => rfl
  | some bus =>
      cases bus with
      | false => rfl
      | true =>
          cases fs.isRegularFile (CanonicalPath.string (path ++ [pluginUsbDeviceDevAddr])) with
          | none => rfl
          | some dev => cases dev <;> rfl

lemma findUsbAddressFilesTraced_succ (fs : Sysfs) (depth : ℕ) (path : CanonicalPath) :
    findUsbAddressFilesTraced fs (depth + 1) path =
      match checkAddressFiles fs path with
      | none => ([path], none)
      | some true => ([path], some (busnumFile path, devnumFile path))
      | some false =>
          if path = [] then ([path], none)
          else
            let next := findUsbAddressFilesTraced fs depth path.dropLast
            (path :: next.1, next.2) := by
  simp only [findUsbAddressFilesTraced, checkAddressFiles]
  cases fs.isRegularFile (busnumFile path) with
  | none => rfl
  | some bus =>
      cases bus with
      | false => by_cases hroot : path = [] <;> simp [hroot]
      | true =>
          cases fs.isRegularFile (devnumFile path) with
          | none => rfl
          | some dev => cases dev <;> by_cases hroot : path = [] <;> simp [hroot]

/-- The record changes nothing. -/
lemma findUsbAddressFilesTraced_found (fs : Sysfs) : ∀ (depth : ℕ) (path : CanonicalPath),
    (findUsbAddressFilesTraced fs depth path).2 = findUsbAddressFilesLoop fs depth path
  | 0, _ => rfl
  | depth + 1, path => by
      have ih := findUsbAddressFilesTraced_found fs depth path.dropLast
      rw [findUsbAddressFilesTraced_succ, findUsbAddressFilesLoop_succ]
      split
      · rfl
      · rfl
      · split_ifs
        · rfl
        · exact ih

/-- The directories on record are those the walk looks at. -/
lemma findUsbAddressFilesTraced_visited (fs : Sysfs) : ∀ (depth : ℕ) (path : CanonicalPath),
    (findUsbAddressFilesTraced fs depth path).1 = visited (checkAddressFiles fs) depth path
  | 0, _ => rfl
  | depth + 1, path => by
      have ih := findUsbAddressFilesTraced_visited fs depth path.dropLast
      rw [findUsbAddressFilesTraced_succ, visited]
      cases checkAddressFiles fs path with
      | none => rfl
      | some holds =>
          cases holds with
          | true => rfl
          | false => by_cases hroot : path = [] <;> simp [hroot, ih]

/-- And the outcome is that of the walk. -/
lemma findUsbAddressFilesLoop_eq (fs : Sysfs) : ∀ (depth : ℕ) (path : CanonicalPath),
    findUsbAddressFilesLoop fs depth path =
      (walk (checkAddressFiles fs) depth path).map fun dir => (busnumFile dir, devnumFile dir)
  | 0, _ => rfl
  | depth + 1, path => by
      have ih := findUsbAddressFilesLoop_eq fs depth path.dropLast
      rw [findUsbAddressFilesLoop_succ, walk]
      cases checkAddressFiles fs path with
      | none => rfl
      | some holds =>
          cases holds with
          | true => rfl
          | false => by_cases hroot : path = [] <;> simp [hroot, ih]

/-- The whole function, in terms of the walk. -/
lemma findUsbAddressFiles_eq (fs : Sysfs) (dirPath deviceName busnumPath devnumPath : CxxString) :
    findUsbAddressFiles fs dirPath deviceName busnumPath devnumPath =
      match (fs.canonical (deviceLink dirPath deviceName)).bind
        (walk (checkAddressFiles fs) pluginUsbDeviceMaxTraversalDepth) with
      | none => (false, busnumPath, devnumPath)
      | some dir => (true, busnumFile dir, devnumFile dir) := by
  simp only [findUsbAddressFiles, deviceLink]
  cases fs.canonical (dirPath ++ "/".toList ++ deviceName ++ "/device".toList) with
  | none => rfl
  | some path =>
      dsimp only
      rw [findUsbAddressFilesLoop_eq, Option.bind_some]
      cases walk (checkAddressFiles fs) pluginUsbDeviceMaxTraversalDepth path <;> rfl

/-- The check of a directory depends on its two files. -/
lemma checkAddressFiles_congr {fs fs' : Sysfs} {dir : CanonicalPath}
    (hbus : fs'.isRegularFile (busnumFile dir) = fs.isRegularFile (busnumFile dir))
    (hdev : fs'.isRegularFile (devnumFile dir) = fs.isRegularFile (devnumFile dir)) :
    checkAddressFiles fs' dir = checkAddressFiles fs dir := by
  rw [checkAddressFiles, checkAddressFiles, hbus, hdev]

/-- **The walk is short and finds the nearest USB node.**  Whatever files there are, as long as
looking at them does not throw: at most ten directories are looked at, the resolved link and its
parents in turn, none above the root, and what is elsewhere does not matter.  The answer is yes exactly
when one of these ten is a USB node, and the paths are then those of the deepest; otherwise, and also
when the link cannot be resolved, the caller's paths are left alone. -/
theorem findUsbAddressFiles_nearest {fs : Sysfs} (hchecks : ∀ path, fs.isRegularFile path ≠ none)
    (dirPath deviceName busnumPath devnumPath : CxxString) :
    let r := findUsbAddressFiles fs dirPath deviceName busnumPath devnumPath
    (r.1 = false → r.2 = (busnumPath, devnumPath)) ∧
    (fs.canonical (deviceLink dirPath deviceName) = none → r.1 = false) ∧
    ∀ path, fs.canonical (deviceLink dirPath deviceName) = some path →
      let traced := findUsbAddressFilesTraced fs pluginUsbDeviceMaxTraversalDepth path
      let examined := traced.1
      let reach := (ancestors path).take 10
      traced.2 = findUsbAddressFilesLoop fs pluginUsbDeviceMaxTraversalDepth path ∧
      examined = visited (checkAddressFiles fs) pluginUsbDeviceMaxTraversalDepth path ∧
      examined <+: reach ∧ examined.length ≤ 10 ∧ (∀ dir ∈ examined, dir <+: path) ∧
      (∀ fs' : Sysfs, fs'.canonical (deviceLink dirPath deviceName) = some path →
        (∀ dir ∈ examined, ∀ file ∈ [busnumFile dir, devnumFile dir],
          fs'.isRegularFile file = fs.isRegularFile file) →
        findUsbAddressFiles fs' dirPath deviceName busnumPath devnumPath = r) ∧
      (r.1 = true ↔ ∃ dir ∈ reach, HasAddressFiles fs dir) ∧
      (r.1 = true → ∃ dir ∈ reach, HasAddressFiles fs dir ∧
        (∀ dir' ∈ reach, HasAddressFiles fs dir' → dir'.length ≤ dir.length) ∧
        r.2 = (busnumFile dir, devnumFile dir)) := by
  intro r
  have hr : r = _ := findUsbAddressFiles_eq fs dirPath deviceName busnumPath devnumPath
  refine ⟨fun hfalse => ?_, fun hlink => ?_, fun path hlink => ?_⟩
  · rw [hr] at hfalse ⊢
    split
    · rfl
    · next h => simp [h] at hfalse
  · rw [hr, hlink]
    rfl
  intro traced examined reach
  have hexamined : examined <+: reach := by
    have hprefix : visited (checkAddressFiles fs) 10 path <+: (ancestors path).take 10 :=
      visited_prefix 10 path
    rwa [← findUsbAddressFilesTraced_visited] at hprefix
  have hfound : ∀ dir, walk (checkAddressFiles fs) pluginUsbDeviceMaxTraversalDepth path = some dir ↔
      IsUsbNode fs path dir := fun dir => walk_eq_some_iff
  rw [hlink, Option.bind_some] at hr
  refine ⟨findUsbAddressFilesTraced_found fs _ path, findUsbAddressFilesTraced_visited fs _ path,
    hexamined, ?_, fun dir hdir => ?_, fun fs' hlink' hsame => ?_, ?_, fun htrue => ?_⟩
  · exact hexamined.length_le.trans (List.length_take_le _ _)
  · exact mem_ancestors.mp (List.mem_of_mem_take (hexamined.subset hdir))
  · have hwalk : walk (checkAddressFiles fs') pluginUsbDeviceMaxTraversalDepth path =
        walk (checkAddressFiles fs) pluginUsbDeviceMaxTraversalDepth path := by
      refine walk_congr fun dir hdir => ?_
      rw [← findUsbAddressFilesTraced_visited] at hdir
      exact checkAddressFiles_congr (hsame dir hdir _ (by simp)) (hsame dir hdir _ (by simp))
    rw [findUsbAddressFiles_eq, hlink', Option.bind_some, hwalk, hr]
  · constructor
    · intro htrue
      cases hwalk : walk (checkAddressFiles fs) pluginUsbDeviceMaxTraversalDepth path with
      | none => simp [hr, hwalk] at htrue
      | some dir =>
          obtain ⟨hmem, hhas, -⟩ := (isUsbNode_iff hchecks).mp ((hfound dir).mp hwalk)
          exact ⟨dir, hmem, hhas⟩
    · rintro ⟨dir, hdir, hhas⟩
      obtain ⟨nearest, hnearest⟩ := exists_isNearest (checkAddressFiles_ne_none hchecks) hdir
        (checkAddressFiles_eq_true_iff.mpr hhas)
      rw [hr, (hfound nearest).mpr hnearest]
  · cases hwalk : walk (checkAddressFiles fs) pluginUsbDeviceMaxTraversalDepth path with
    | none => simp [hr, hwalk] at htrue
    | some dir =>
        obtain ⟨hmem, hhas, hdeepest⟩ := (isUsbNode_iff hchecks).mp ((hfound dir).mp hwalk)
        exact ⟨dir, hmem, hhas, hdeepest, by rw [hr, hwalk]⟩

/-- The link of `sda` in the sample file system. -/
theorem findUsbAddressFiles_sampleSda :
    let r := findUsbAddressFiles sampleSysfs "/sys/block".toList "sda".toList [] []
    (r.1 = false → r.2 = ([], [])) ∧
    (sampleSysfs.canonical (deviceLink "/sys/block".toList "sda".toList) = none → r.1 = false) ∧
    ∀ path, sampleSysfs.canonical (deviceLink "/sys/block".toList "sda".toList) = some path →
      let traced := findUsbAddressFilesTraced sampleSysfs pluginUsbDeviceMaxTraversalDepth path
      let examined := traced.1
      let reach := (ancestors path).take 10
      traced.2 = findUsbAddressFilesLoop sampleSysfs pluginUsbDeviceMaxTraversalDepth path ∧
      examined = visited (checkAddressFiles sampleSysfs) pluginUsbDeviceMaxTraversalDepth path ∧
      examined <+: reach ∧ examined.length ≤ 10 ∧ (∀ dir ∈ examined, dir <+: path) ∧
      (∀ fs' : Sysfs, fs'.canonical (deviceLink "/sys/block".toList "sda".toList) = some path →
        (∀ dir ∈ examined, ∀ file ∈ [busnumFile dir, devnumFile dir],
          fs'.isRegularFile file = sampleSysfs.isRegularFile file) →
        findUsbAddressFiles fs' "/sys/block".toList "sda".toList [] [] = r) ∧
      (r.1 = true ↔ ∃ dir ∈ reach, HasAddressFiles sampleSysfs dir) ∧
      (r.1 = true → ∃ dir ∈ reach, HasAddressFiles sampleSysfs dir ∧
        (∀ dir' ∈ reach, HasAddressFiles sampleSysfs dir' → dir'.length ≤ dir.length) ∧
        r.2 = (busnumFile dir, devnumFile dir)) :=
  findUsbAddressFiles_nearest (fun _ => by simp only [sampleSysfs, ne_eq, reduceCtorEq,
    not_false_eq_true]) "/sys/block".toList "sda".toList [] []

/-! ## The entries that belong to a device -/

/-- The number in a file, if it can be opened and holds one. -/
def numberIn (fs : Sysfs) (path : CxxString) : Option Int := (fs.contents path).bind readInt

/-- The `busnum` and `devnum` files hold bytes, as far as they can be read. -/
def ByteNumbers (fs : Sysfs) : Prop :=
  ∀ dir : CanonicalPath, ∀ path ∈ [busnumFile dir, devnumFile dir], ∀ n ∈ numberIn fs path,
    0 ≤ n ∧ n ≤ 255

/-- An entry of the block directory belongs to a device: it is a disk, and the nearest USB node above
it holds the device's bus number and address. -/
def BelongsTo (fs : Sysfs) (d : Device) (deviceName : CxxString) : Prop :=
  "sd".toList <+: deviceName ∧
    ∃ path dir, fs.canonical (deviceLink pluginUsbDeviceBlockPath deviceName) = some path ∧
      IsUsbNode fs path dir ∧
      numberIn fs (busnumFile dir) = some (d.busNumber.toNat : Int) ∧
      numberIn fs (devnumFile dir) = some (d.deviceAddress.toNat : Int)

/-- A number that is a byte survives the narrowing. -/
lemma readByteFile_eq_some_iff {fs : Sysfs} {path : CxxString}
    (hbyte : ∀ n ∈ numberIn fs path, 0 ≤ n ∧ n ≤ 255) (b : UInt8) :
    readByteFile fs path = some b ↔ numberIn fs path = some (b.toNat : Int) := by
  have hread : readByteFile fs path = (numberIn fs path).map UInt8.ofInt := rfl
  rw [hread]
  cases hn : numberIn fs path with
  | none => simp
  | some n =>
      obtain ⟨hpos, hle⟩ := hbyte n hn
      have hnat : (UInt8.ofInt n).toNat = n.toNat := by
        rw [UInt8.ofInt, UInt8.toNat_ofNat']
        omega
      rw [Option.map_some, Option.some.injEq, Option.some.injEq, ← UInt8.toNat_inj, hnat]
      omega

/-- The check of one entry, in terms of the walk. -/
lemma findBlockDevicePathByUsbAddress_fst_iff (fs : Sysfs) (deviceName : CxxString)
    (bus addr : UInt8) :
    (findBlockDevicePathByUsbAddress fs pluginUsbDeviceBlockPath deviceName bus addr []).1 = true ↔
      ∃ path dir, fs.canonical (deviceLink pluginUsbDeviceBlockPath deviceName) = some path ∧
        IsUsbNode fs path dir ∧ readByteFile fs (busnumFile dir) = some bus ∧
        readByteFile fs (devnumFile dir) = some addr := by
  rw [findBlockDevicePathByUsbAddress, findUsbAddressFiles_eq]
  cases hlink : fs.canonical (deviceLink pluginUsbDeviceBlockPath deviceName) with
  | none => simp
  | some path =>
      simp only [Option.bind_some, Option.some.injEq, exists_and_left, exists_eq_left', IsUsbNode,
        ← walk_eq_some_iff, pluginUsbDeviceMaxTraversalDepth]
      cases walk (checkAddressFiles fs) 10 path with
      | none => simp
      | some dir =>
          simp only [Option.some.injEq, exists_eq_left']
          split_ifs <;> simp_all

/-- The same without the assumption that the files hold bytes: what they hold is narrowed to bytes. -/
def LeadsTo (fs : Sysfs) (d : Device) (deviceName : CxxString) : Prop :=
  "sd".toList <+: deviceName ∧
    ∃ path dir, fs.canonical (deviceLink pluginUsbDeviceBlockPath deviceName) = some path ∧
      IsUsbNode fs path dir ∧
      readByteFile fs (busnumFile dir) = some d.busNumber ∧
      readByteFile fs (devnumFile dir) = some d.deviceAddress

lemma leadsTo_iff_belongsTo {fs : Sysfs} (hbytes : ByteNumbers fs) (d : Device)
    (deviceName : CxxString) : LeadsTo fs d deviceName ↔ BelongsTo fs d deviceName := by
  have hbus : ∀ dir, ∀ n ∈ numberIn fs (busnumFile dir), 0 ≤ n ∧ n ≤ 255 := fun dir =>
    hbytes dir _ (by simp)
  have hdev : ∀ dir, ∀ n ∈ numberIn fs (devnumFile dir), 0 ≤ n ∧ n ≤ 255 := fun dir =>
    hbytes dir _ (by simp)
  simp only [LeadsTo, BelongsTo, readByteFile_eq_some_iff (hbus _),
    readByteFile_eq_some_iff (hdev _)]

/-- **The code's check decides whether an entry leads to the device.** -/
lemma matches_iff_leadsTo {fs : Sysfs} {d : Device} {deviceName : CxxString} :
    Matches fs d deviceName = true ↔ LeadsTo fs d deviceName := by
  rw [Matches, Bool.and_eq_true, List.isPrefixOf_iff_prefix, findBlockDevicePathByUsbAddress_fst_iff]
  rfl

lemma matches_iff_belongsTo {fs : Sysfs} (hbytes : ByteNumbers fs) (d : Device)
    (deviceName : CxxString) : Matches fs d deviceName = true ↔ BelongsTo fs d deviceName :=
  matches_iff_leadsTo.trans (leadsTo_iff_belongsTo hbytes d deviceName)

/-! ## The path and the serial number -/

/-- The serial number a scan yields. -/
lemma getDevicePathFromDevice_serial {d : Device} {sysfsPath : CxxString}
    (hpath : getUSBDeviceSysfsPath d = some sysfsPath) (env : Env) (devPath serial : CxxString)
    (t : ℕ) (s : DriverState) :
    ((getDevicePathFromDevice env d devPath serial).run t s).value.2 =
      getDeviceSerialNumber (env t).sysfs sysfsPath serial := by
  unfold getDevicePathFromDevice
  rw [hpath]
  cases hdir : (env t).sysfs.directory pluginUsbDeviceBlockPath <;> simp [readSysfs, hdir]

/-- The disk of a device with a place is the first entry that passes the check. -/
lemma blockDevicePath_eq {d : Device} {sysfsPath : CxxString}
    (hpath : getUSBDeviceSysfsPath d = some sysfsPath) (fs : Sysfs) :
    blockDevicePath fs d =
      (((fs.directory pluginUsbDeviceBlockPath).getD []).find? (Matches fs d)).map
        ("/dev/".toList ++ ·) := by
  unfold blockDevicePath
  rw [hpath]
  cases fs.directory pluginUsbDeviceBlockPath <;> rfl

/-- **The block device reported belongs to the device.**  Whatever the file system, as long as the
`busnum` and `devnum` files hold bytes: the path is that of the first entry listed that belongs to the
device, or the caller's if there is none; and in both cases the serial number is the first line of the
file under the device's own sysfs name, or the caller's if that cannot be opened. -/
theorem getDevicePathFromDevice_belongs {env : Env} {d : Device} (hplace : HasPlace d) {t : ℕ}
    (hbytes : ByteNumbers (env t).sysfs) (devPath deviceSerialNumber : CxxString)
    (s : DriverState) :
    let fs := (env t).sysfs
    let entries := (fs.directory pluginUsbDeviceBlockPath).getD []
    let r := (getDevicePathFromDevice env d devPath deviceSerialNumber).run t s
    ((∃ earlier deviceName later, entries = earlier ++ deviceName :: later ∧
        BelongsTo fs d deviceName ∧ (∀ other ∈ earlier, ¬ BelongsTo fs d other) ∧
        r.value.1 = "/dev/".toList ++ deviceName) ∨
      (∀ deviceName ∈ entries, ¬ BelongsTo fs d deviceName) ∧ r.value.1 = devPath) ∧
    ∃ sysfsPath, getUSBDeviceSysfsPath d = some sysfsPath ∧
      decodeSysfsPath sysfsPath = (d.busNumber.toNat, d.portChain.map UInt8.toNat) ∧
      r.value.2 = ((fs.contents (serialFile sysfsPath)).map getline).getD deviceSerialNumber := by
  have hpath := getUSBDeviceSysfsPath_eq hplace
  have hcheck := matches_iff_belongsTo hbytes d
  intro fs entries r
  have hvalue : r.value.1 = _ := getDevicePathFromDevice_value env d devPath deviceSerialNumber t s
  have hserial : r.value.2 = _ :=
    getDevicePathFromDevice_serial hpath env devPath deviceSerialNumber t s
  rw [blockDevicePath_eq hpath] at hvalue
  rw [getDeviceSerialNumber_eq, serialPath_eq_serialFile hplace hpath] at hserial
  refine ⟨?_, _, hpath, decodeSysfsPath_place hplace hpath, hserial⟩
  cases hfind : entries.find? (Matches fs d) with
  | none =>
      refine Or.inr ⟨fun deviceName hmem hbelongs => ?_, by rw [hvalue, hfind]; rfl⟩
      exact List.find?_eq_none.mp hfind deviceName hmem ((hcheck deviceName).mpr hbelongs)
  | some deviceName =>
      obtain ⟨hmatches, earlier, later, hsplit, hearlier⟩ := List.find?_eq_some_iff_append.mp hfind
      refine Or.inl ⟨earlier, deviceName, later, hsplit, (hcheck deviceName).mp hmatches, ?_, ?_⟩
      · intro other hother hbelongs
        have hmiss : ¬ Matches fs d other = true := by simpa using hearlier other hother
        exact hmiss ((hcheck other).mpr hbelongs)
      · rw [hvalue, hfind]
        rfl

/-- A file system with four block devices.  The first is no disk, the second has a USB node with a
file that cannot be read, the third belongs to another device, and the last, `sda`, to the stick. -/
def sampleCrowdedSysfs : Sysfs where
  directory p :=
    if p = pluginUsbDeviceBlockPath then
      some ["loop0".toList, "sdc".toList, "sdb".toList, "sda".toList]
    else none
  canonical p :=
    if p = "/sys/block/sda/device".toList then
      some ["sys".toList, "1-1".toList, "host0".toList]
    else if p = "/sys/block/sdb/device".toList then
      some ["sys".toList, "1-2".toList, "1-2.1".toList]
    else if p = "/sys/block/sdc/device".toList then some ["sys".toList, "1-3".toList]
    else none
  isRegularFile p :=
    some (p = "/sys/1-1/busnum".toList ∨ p = "/sys/1-1/devnum".toList ∨
      p = "/sys/1-2/1-2.1/busnum".toList ∨ p = "/sys/1-2/1-2.1/devnum".toList ∨
      p = "/sys/1-3/busnum".toList ∨ p = "/sys/1-3/devnum".toList)
  contents p :=
    if p = "/sys/1-1/busnum".toList ∨ p = "/sys/1-2/1-2.1/busnum".toList ∨
        p = "/sys/1-3/busnum".toList then
      some "1\n".toList
    else if p = "/sys/1-1/devnum".toList then some "5\n".toList
    else if p = "/sys/1-2/1-2.1/devnum".toList then some "6\n".toList
    else if p = "/sys/bus/usb/devices/1-1/serial".toList then some "A17\n".toList
    else none

lemma byteNumbers_sampleCrowdedSysfs : ByteNumbers sampleCrowdedSysfs := by
  intro dir path _ n hn
  have hbus : readInt "1\n".toList = some 1 := by decide
  have hdisk : readInt "5\n".toList = some 5 := by decide
  have hother : readInt "6\n".toList = some 6 := by decide
  have hserial : readInt "A17\n".toList = none := by decide
  simp only [numberIn, sampleCrowdedSysfs] at hn
  split_ifs at hn <;>
    simp only [Option.bind_some, Option.bind_none, hbus, hdisk, hother, hserial, Option.mem_def,
      Option.some.injEq, reduceCtorEq] at hn <;>
    omega

/-- The sample outcomes with this file system. -/
def sampleCrowded : Outcomes := { sampleOutcomes with sysfs := sampleCrowdedSysfs }

/-- The stick in a crowded block directory. -/
theorem getDevicePathFromDevice_belongs_sampleCrowded :
    let entries := ["loop0".toList, "sdc".toList, "sdb".toList, "sda".toList]
    let r := (getDevicePathFromDevice sampleCrowded.steady sampleDisk [] []).run 0
      (fun _ _ => false)
    ((∃ earlier deviceName later, entries = earlier ++ deviceName :: later ∧
        BelongsTo sampleCrowdedSysfs sampleDisk deviceName ∧
        (∀ other ∈ earlier, ¬ BelongsTo sampleCrowdedSysfs sampleDisk other) ∧
        r.value.1 = "/dev/".toList ++ deviceName) ∨
      (∀ deviceName ∈ entries, ¬ BelongsTo sampleCrowdedSysfs sampleDisk deviceName) ∧
        r.value.1 = []) ∧
    ∃ sysfsPath, getUSBDeviceSysfsPath sampleDisk = some sysfsPath ∧
      decodeSysfsPath sysfsPath = (1, [1]) ∧
      r.value.2 = ((sampleCrowdedSysfs.contents (serialFile sysfsPath)).map getline).getD [] := by
  have hplace : HasPlace sampleDisk := by decide
  have hbytes : ByteNumbers (sampleCrowded.steady 0).sysfs := byteNumbers_sampleCrowdedSysfs
  exact getDevicePathFromDevice_belongs hplace hbytes [] [] _

example : ((getDevicePathFromDevice sampleCrowded.steady sampleDisk [] []).run 0
    fun _ _ => false).value = ("/dev/sda".toList, "A17".toList) := by decide

/-! ## The order of the block directory -/

/-- The same outcomes with the block directory listed as said. -/
def Outcomes.listing (o : Outcomes) (entries : List CxxString) : Outcomes :=
  { o with
    sysfs :=
      { o.sysfs with
        directory := fun path =>
          if path = pluginUsbDeviceBlockPath then some entries else o.sysfs.directory path } }

/-- The check of an entry does not look at the block directory. -/
lemma matches_listing (o : Outcomes) (entries : List CxxString) :
    Matches (o.listing entries).sysfs = Matches o.sysfs := by
  funext d deviceName
  have hwalk : checkAddressFiles (o.listing entries).sysfs = checkAddressFiles o.sysfs := rfl
  have hlink : (o.listing entries).sysfs.canonical = o.sysfs.canonical := rfl
  rw [Bool.eq_iff_iff]
  simp only [Matches, Bool.and_eq_true, findBlockDevicePathByUsbAddress_fst_iff, IsUsbNode, hwalk,
    hlink]
  rfl

/-- No two entries lead to the device. -/
def SingleDisk (fs : Sysfs) (d : Device) (entries : List CxxString) : Prop :=
  ∀ name ∈ entries, ∀ name' ∈ entries, LeadsTo fs d name → LeadsTo fs d name' → name = name'

/-- Then the order is of no account. -/
lemma blockDevicePath_listing {o : Outcomes} {d : Device} {entries : List CxxString}
    (hsingle : getUSBDeviceSysfsPath d = none ∨ SingleDisk o.sysfs d entries)
    {listed : List CxxString} (hperm : listed.Perm entries) :
    blockDevicePath (o.listing listed).sysfs d = blockDevicePath (o.listing entries).sysfs d := by
  cases hpath : getUSBDeviceSysfsPath d with
  | none => rw [blockDevicePath_of_no_sysfsPath hpath, blockDevicePath_of_no_sysfsPath hpath]
  | some sysfsPath =>
      have hunique := hsingle.resolve_left (by simp [hpath])
      have hfind : listed.find? (Matches o.sysfs d) = entries.find? (Matches o.sysfs d) := by
        refine find?_eq_of_perm hperm fun name hname name' hname' hmatches hmatches' => ?_
        exact hunique name (hperm.mem_iff.mp hname) name' (hperm.mem_iff.mp hname')
          (matches_iff_leadsTo.mp hmatches) (matches_iff_leadsTo.mp hmatches')
      simp only [blockDevicePath_eq hpath, matches_listing]
      simp [Outcomes.listing, hfind]

/-- The content of the file system and what libusb answers are the same at all instants; only the order
in which the block directory is listed may be another each time. -/
def Reorders (env : Env) (o : Outcomes) (entries : List CxxString) : Prop :=
  ∀ t, ∃ listed, listed.Perm entries ∧ env t = o.listing listed

/-- A path that is the same in all file systems met is the path found. -/
lemma pathFrom_of_const {env : Env} {d : Device} {path : Option CxxString}
    (hconst : ∀ t, blockDevicePath (env t).sysfs d = path) :
    ∀ looks t, pathFrom env d (looks + 1) t = path.getD []
  | looks, t => by
      rw [pathFrom, hconst]
      cases path with
      | some found => rfl
      | none =>
          cases looks with
          | zero => rfl
          | succ looks => exact pathFrom_of_const hconst looks _

/-- Two scans of the device come to the same, and so do two descriptions. -/
lemma queries_agree {env : Env} {o : Outcomes} {d : Device} {entries : List CxxString}
    (hsingle : getUSBDeviceSysfsPath d = none ∨ SingleDisk o.sysfs d entries)
    (hreorders : Reorders env o entries) (devPath deviceSerialNumber : CxxString) (t t' : ℕ)
    (s s' : DriverState) :
    ((getDevicePathFromDevice env d devPath deviceSerialNumber).run t s).value =
        ((getDevicePathFromDevice env d devPath deviceSerialNumber).run t' s').value ∧
      ((getUSBDeviceStructFromDeviceDescriptor env d {}).run t s).value =
        ((getUSBDeviceStructFromDeviceDescriptor env d {}).run t' s').value := by
  have hdisk : ∀ t, blockDevicePath (env t).sysfs d = blockDevicePath (o.listing entries).sysfs d := by
    intro t
    obtain ⟨listed, hperm, henv⟩ := hreorders t
    rw [henv, blockDevicePath_listing hsingle hperm]
  have hcontents : ∀ t, (env t).sysfs.contents = o.sysfs.contents := by
    intro t
    obtain ⟨listed, -, henv⟩ := hreorders t
    rw [henv]
    rfl
  have hdescriptor : ∀ t, (env t).getDeviceDescriptor d = o.getDeviceDescriptor d := by
    intro t
    obtain ⟨listed, -, henv⟩ := hreorders t
    rw [henv]
    rfl
  have hclass : ∀ t desc, announcedClass (env t) d desc = announcedClass o d desc := by
    intro t desc
    obtain ⟨listed, -, henv⟩ := hreorders t
    rw [henv]
    rfl
  constructor
  · refine Prod.ext ?_ ?_
    · rw [getDevicePathFromDevice_value, getDevicePathFromDevice_value, hdisk, hdisk t']
    · cases hpath : getUSBDeviceSysfsPath d with
      | none => simp [getDevicePathFromDevice, hpath]
      | some sysfsPath =>
          rw [getDevicePathFromDevice_serial hpath, getDevicePathFromDevice_serial hpath,
            getDeviceSerialNumber_eq, getDeviceSerialNumber_eq, hcontents, hcontents t']
  · cases hdesc : o.getDeviceDescriptor d with
    | error e =>
        simp [getUSBDeviceStructFromDeviceDescriptor, libusbGetDeviceDescriptor, hdescriptor, hdesc]
    | ok desc =>
        have hvalue := fun t s => getUSBDeviceStructFromDeviceDescriptor_value env d t s
          ((hdescriptor t).trans hdesc)
        rw [hvalue, hvalue]
        simp only [hclass, pathFrom_of_const hdisk]

/-- **The path depends on the order in which the block directory is listed exactly when two entries
lead to the device.**  If the files hold bytes, these are two entries that belong to it.  Otherwise
two successive queries about a device of which nothing else changes name the same disk, and so do the
descriptions with which it is announced and listed. -/
theorem devicePath_order_iff (o : Outcomes) (d : Device) (entries : List CxxString)
    (devPath deviceSerialNumber : CxxString) (t t' : ℕ) (s s' : DriverState) :
    ((∀ listed listed' : List CxxString, listed.Perm entries → listed'.Perm entries →
        ((getDevicePathFromDevice (o.listing listed).steady d devPath deviceSerialNumber).run t
            s).value.1 =
          ((getDevicePathFromDevice (o.listing listed').steady d devPath deviceSerialNumber).run t'
            s').value.1) ↔
      getUSBDeviceSysfsPath d = none ∨ SingleDisk o.sysfs d entries) ∧
    (ByteNumbers o.sysfs → ∀ name, LeadsTo o.sysfs d name ↔ BelongsTo o.sysfs d name) ∧
    (getUSBDeviceSysfsPath d = none ∨ SingleDisk o.sysfs d entries →
      ∀ env, Reorders env o entries →
        ((getDevicePathFromDevice env d devPath deviceSerialNumber).run t s).value =
            ((getDevicePathFromDevice env d devPath deviceSerialNumber).run t' s').value ∧
          ((getUSBDeviceStructFromDeviceDescriptor env d {}).run t s).value =
            ((getUSBDeviceStructFromDeviceDescriptor env d {}).run t' s').value) := by
  refine ⟨⟨fun hsame => ?_, fun hsingle listed listed' hperm hperm' => ?_⟩,
    fun hbytes => leadsTo_iff_belongsTo hbytes d, fun hsingle env hreorders =>
      queries_agree hsingle hreorders devPath deviceSerialNumber t t' s s'⟩
  · refine or_iff_not_imp_left.mpr fun hne name hname name' hname' hleads hleads' => ?_
    obtain ⟨sysfsPath, hpath⟩ := Option.ne_none_iff_exists'.mp hne
    obtain ⟨listed, hperm, hfind⟩ := exists_perm_find? hname (matches_iff_leadsTo.mpr hleads)
    obtain ⟨listed', hperm', hfind'⟩ := exists_perm_find? hname' (matches_iff_leadsTo.mpr hleads')
    have heq := hsame listed listed' hperm hperm'
    simp only [getDevicePathFromDevice_value, Outcomes.steady, blockDevicePath_eq hpath,
      matches_listing] at heq
    simp only [Outcomes.listing, if_true, Option.getD_some, hfind, hfind', Option.map_some] at heq
    exact List.append_cancel_left heq
  · rw [getDevicePathFromDevice_value, getDevicePathFromDevice_value]
    simp only [Outcomes.steady, blockDevicePath_listing hsingle hperm,
      blockDevicePath_listing hsingle hperm']

/-- The sample file system with a card reader in place of the stick: two disks, one USB device. -/
def sampleCardReader : Outcomes :=
  { sampleOutcomes with
    sysfs :=
      { sampleSysfs with
        canonical := fun path =>
          if path = "/sys/block/sda/device".toList ∨ path = "/sys/block/sdb/device".toList then
            some ["sys".toList, "1-1".toList]
          else none } }

/-- **A card reader is now one disk and now the other.** -/
theorem devicePath_order_sampleCardReader :
    let path := fun entries =>
      ((getDevicePathFromDevice (sampleCardReader.listing entries).steady sampleDisk [] []).run 0
        (fun _ _ => false)).value.1
    ["sda".toList, "sdb".toList].Perm ["sdb".toList, "sda".toList] ∧
      path ["sda".toList, "sdb".toList] = "/dev/sda".toList ∧
      path ["sdb".toList, "sda".toList] = "/dev/sdb".toList ∧
      path ["sda".toList, "sdb".toList] ≠ path ["sdb".toList, "sda".toList] := by
  refine ⟨List.Perm.swap _ _ _, by decide, by decide, by decide⟩

end Usb
