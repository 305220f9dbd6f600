import USBDevicePlugin.Device.BlockDevice
import USBDevicePlugin.Device.HotPlug
import USBDevicePlugin.Operations.DeviceList
import USBDevicePlugin.Operations.DeviceScan

/-!
# What a listing shows

`GetDeviceList` takes its time: up to five seconds for each disk whose path is not there yet, while
devices come and go and the file system changes.  What it returns of a device was true at some
instant of the call, of different devices at different instants.  At rest it returns what the hotplug
callbacks announce, and neither a device nor a disk twice.

* `Observed` — what an entry says was so during the call.
* **`getDeviceList_observed`** — every entry is observed, whatever happens meanwhile.
* `key_eq_of_blockDevicePath` — two devices do not share a disk.
* **`getDeviceList_announced`** — at rest, the listing and the announcements agree.
-/

namespace Usb

open Interaction Search

/-! ## During the call -/

/-- The name is the device's, and what else the entry says was found at instants from `start` on and
before `finish`: the class as the descriptors gave it, and the path, if there is one, as the block
directory gave it. -/
structure Observed (env : Env) (d : Device) (entry : USBDevice) (start finish : ℕ) : Prop where
  name : entry.deviceName = usbDeviceName d
  described : ∃ t desc, start ≤ t ∧ t < finish ∧ (env t).getDeviceDescriptor d = .ok desc ∧
    (entry.deviceClass, entry.deviceSubclass) = announcedClass (env (t + 1)) d desc
  disk : entry.devicePath ≠ [] → entry.deviceClass = classMassStorage ∧
    ∃ t, start ≤ t ∧ t < finish ∧ blockDevicePath (env t).sysfs d = some entry.devicePath

lemma Observed.mono {env : Env} {d : Device} {entry : USBDevice} {start finish start' finish' : ℕ}
    (h : Observed env d entry start finish) (hstart : start' ≤ start) (hfinish : finish ≤ finish') :
    Observed env d entry start' finish' := by
  obtain ⟨hname, ⟨t, desc, hge, hlt, hdesc⟩, hdisk⟩ := h
  refine ⟨hname, ⟨t, desc, by omega, by omega, hdesc⟩, fun hpath => ?_⟩
  obtain ⟨hclass, t', hge', hlt', hfound⟩ := hdisk hpath
  exact ⟨hclass, t', by omega, by omega, hfound⟩

/-- The retries end with a path that one of them found.  The induction is on the retries left. -/
lemma retryDevicePath_found (env : Env) (d : Device) :
    ∀ (retryCount : ℕ) (serial : CxxString) (t : ℕ) (s : DriverState),
      let r := (retryDevicePath env d retryCount [] serial).run t s
      r.value ≠ [] →
        ∃ t', t ≤ t' ∧ t' < t + r.calls.length ∧ blockDevicePath (env t').sysfs d = some r.value
  | 0, _, _, _ => fun h => absurd rfl h
  | retryCount + 1, serial, t, s => by
      have hscan := getDevicePathFromDevice_value env d [] serial t s
      have hlength := getDevicePathFromDevice_calls_length env d [] serial t s
      rw [retryDevicePath, Prog.bind_run]
      generalize (getDevicePathFromDevice env d [] serial).run t s = r at hscan hlength ⊢
      obtain ⟨⟨path, serial'⟩, calls, s'⟩ := r
      simp only at hscan hlength ⊢
      cases hpath : blockDevicePath (env t).sysfs d with
      | some found =>
          obtain rfl : path = found := by simpa [hpath] using hscan
          have hplace : getUSBDeviceSysfsPath d ≠ none := fun hnone => by
            simp [blockDevicePath_of_no_sysfsPath hnone] at hpath
          have hpos : 0 < calls.length := by
            rw [hlength, pathCalls, if_neg hplace, scanCalls]
            split_ifs <;> omega
          intro _
          simp only [blockDevicePath_ne_nil hpath, if_false, Prog.pure_run, List.append_nil]
          exact ⟨t, le_rfl, by omega, hpath⟩
      | none =>
          obtain rfl : path = [] := by simpa [hpath] using hscan
          have ih := retryDevicePath_found env d retryCount serial' (t + calls.length + 1) s'
          simp only [if_true, Prog.bind_run, Prog.tell_run, List.length_singleton,
            List.length_append] at ih ⊢
          intro hne
          obtain ⟨t', hge, hlt, hfound⟩ := ih hne
          exact ⟨t', by omega, by omega, hfound⟩

/-- The run of a description that succeeds. -/
lemma getUSBDeviceStructFromDeviceDescriptor_run {env : Env} {d : Device} {t : ℕ}
    {desc : DeviceDescriptor} (hdesc : (env t).getDeviceDescriptor d = .ok desc) (s : DriverState) :
    (getUSBDeviceStructFromDeviceDescriptor env d {}).run t s =
      let c := (searchDeviceClass env d desc {}).run (t + 1) s
      let p := (searchDevicePath env d c.value.1 []).run (t + 1 + c.calls.length) c.store
      ⟨(.errorNone, ⟨c.value.1, c.value.2, usbDeviceName d, p.value⟩),
        .getDeviceDescriptor d true :: (c.calls ++ p.calls), p.store⟩ := by
  simp [getUSBDeviceStructFromDeviceDescriptor, libusbGetDeviceDescriptor, hdesc, Except.toOption]

/-- A description that succeeds was found out while it was made. -/
lemma getUSBDeviceStructFromDeviceDescriptor_observed (env : Env) (d : Device) (t : ℕ)
    (s : DriverState) :
    let r := (getUSBDeviceStructFromDeviceDescriptor env d {}).run t s
    r.value.1 = .errorNone → Observed env d r.value.2 t (t + r.calls.length) := by
  intro r hstatus
  obtain ⟨desc, hdesc⟩ := (getUSBDeviceStructFromDeviceDescriptor_status env d t s).mp hstatus
  have hclass := searchDeviceClass_value env d desc (t + 1) s
  have hrun : r = _ := getUSBDeviceStructFromDeviceDescriptor_run hdesc s
  rw [hrun]
  refine ⟨rfl, ⟨t, desc, le_rfl, by simp, hdesc, hclass⟩, fun hpath => ?_⟩
  by_cases hms : ((searchDeviceClass env d desc {}).run (t + 1) s).value.1 = classMassStorage
  · refine ⟨hms, ?_⟩
    simp only [searchDevicePath, if_pos hms] at hpath ⊢
    obtain ⟨t', hge, hlt, hfound⟩ := retryDevicePath_found env d 5 [] _ _ hpath
    refine ⟨t', by omega, ?_, hfound⟩
    simp only [List.length_cons, List.length_append]
    omega
  · simp [searchDevicePath, if_neg hms] at hpath

lemma listDevice_run (env : Env) (acc : Status × List USBDevice) (d : Device) (t : ℕ)
    (s : DriverState) :
    (listDevice env acc d).run t s =
      let r := (getUSBDeviceStructFromDeviceDescriptor env d {}).run t s
      ⟨(r.value.1, if r.value.1 = .errorNone then acc.2 ++ [r.value.2] else acc.2), r.calls,
        r.store⟩ := by
  simp [listDevice]

/-- The descriptor of the device could not be read at some instant of the call. -/
def Unreadable (env : Env) (d : Device) (start finish : ℕ) : Prop :=
  ∃ t e, start ≤ t ∧ t < finish ∧ (env t).getDeviceDescriptor d = .error e

lemma Unreadable.mono {env : Env} {d : Device} {start finish start' finish' : ℕ}
    (h : Unreadable env d start finish) (hstart : start' ≤ start) (hfinish : finish ≤ finish') :
    Unreadable env d start' finish' := by
  obtain ⟨t, e, hge, hlt, hdesc⟩ := h
  exact ⟨t, e, by omega, by omega, hdesc⟩

/-- A description that fails could not read the descriptor. -/
lemma getUSBDeviceStructFromDeviceDescriptor_unreadable (env : Env) (d : Device) (t : ℕ)
    (s : DriverState) :
    let r := (getUSBDeviceStructFromDeviceDescriptor env d {}).run t s
    r.value.1 ≠ .errorNone → Unreadable env d t (t + r.calls.length) := by
  intro r hstatus
  cases hdesc : (env t).getDeviceDescriptor d with
  | ok desc =>
      exact absurd ((getUSBDeviceStructFromDeviceDescriptor_status env d t s).mpr ⟨desc, hdesc⟩)
        hstatus
  | error e =>
      refine ⟨t, e, le_rfl, ?_, hdesc⟩
      simp [r, getUSBDeviceStructFromDeviceDescriptor, libusbGetDeviceDescriptor, hdesc]

/-- The loop adds an entry for each device it could describe, in order; if it ends well, for the last
one too. -/
lemma foldlM_listDevice_observed (env : Env) :
    ∀ (devs : List Device) (acc : Status × List USBDevice) (t : ℕ) (s : DriverState),
      let r := (devs.foldlM (listDevice env) acc).run t s
      ∃ listed entries, listed.Sublist devs ∧ r.value.2 = acc.2 ++ entries ∧
        List.Forall₂ (fun d entry => Observed env d entry t (t + r.calls.length)) listed entries ∧
        (∀ d ∈ devs, d ∉ listed → Unreadable env d t (t + r.calls.length)) ∧
        (r.value.1 = .errorNone → devs ≠ [] → listed.getLast? = devs.getLast?)
  | [], acc, _, _ =>
      ⟨[], [], List.Sublist.refl _, by simp, .nil, by simp, fun _ h => absurd rfl h⟩
  | d :: devs, acc, t, s => by
      rw [List.foldlM_cons, Prog.bind_run, listDevice_run]
      have hentry := getUSBDeviceStructFromDeviceDescriptor_observed env d t s
      have hfailed := getUSBDeviceStructFromDeviceDescriptor_unreadable env d t s
      generalize (getUSBDeviceStructFromDeviceDescriptor env d {}).run t s = r at hentry hfailed ⊢
      obtain ⟨⟨status, entry⟩, calls, s'⟩ := r
      simp only at hentry hfailed ⊢
      obtain ⟨listed, entries, hsub, hvalue, hobserved, hleft, hlast⟩ :=
        foldlM_listDevice_observed env devs
          (status, if status = .errorNone then acc.2 ++ [entry] else acc.2) (t + calls.length) s'
      have hend : devs = [] → ((devs.foldlM (listDevice env) (status,
          if status = .errorNone then acc.2 ++ [entry] else acc.2)).run (t + calls.length)
            s').value.1 = status := by
        rintro rfl
        simp
      generalize (devs.foldlM (listDevice env) _).run (t + calls.length) s' = rest at *
      have hlength : t + calls.length + rest.calls.length = t + (calls ++ rest.calls).length := by
        rw [List.length_append]
        omega
      have hrest : List.Forall₂ (fun d entry =>
          Observed env d entry t (t + (calls ++ rest.calls).length)) listed entries :=
        hobserved.imp fun _ _ h => h.mono (by omega) hlength.le
      have hleftRest : ∀ d' ∈ devs, d' ∉ listed →
          Unreadable env d' t (t + (calls ++ rest.calls).length) :=
        fun d' hd' hnot => (hleft d' hd' hnot).mono (by omega) hlength.le
      by_cases hstatus : status = .errorNone
      · rw [if_pos hstatus] at hvalue
        refine ⟨d :: listed, entry :: entries, hsub.cons_cons d, by simp [hvalue],
          .cons ((hentry hstatus).mono le_rfl (by omega)) hrest, ?_, ?_⟩
        · intro d' hd' hnot
          rw [List.mem_cons, not_or] at hnot
          exact hleftRest d' ((List.mem_cons.mp hd').resolve_left hnot.1) hnot.2
        · intro hok _
          by_cases hnil : devs = []
          · subst hnil
            simp [List.sublist_nil.mp hsub]
          · rw [List.getLast?_cons, List.getLast?_cons, hlast hok hnil]
      · rw [if_neg hstatus] at hvalue
        refine ⟨listed, entries, hsub.cons d, hvalue, hrest, ?_, ?_⟩
        · intro d' hd' hnot
          rcases List.mem_cons.mp hd' with rfl | hd'
          · exact (hfailed hstatus).mono le_rfl (by omega)
          · exact hleftRest d' hd' hnot
        · intro hok _
          -- the status at the end is a success: this device was not the last
          have hnil : devs ≠ [] := fun hnil => hstatus ((hend hnil).symm.trans hok)
          rw [hlast hok hnil, List.getLast?_cons, List.getLast?_eq_some_getLast hnil,
            Option.getD_some]

/-- The run over an enumeration that is not empty: the loop, between obtaining the list and freeing
it. -/
lemma getDeviceList_run {env : Env} {d : Device} {ds : List Device} {t : ℕ}
    (hdevs : (env t).getDeviceList = .ok (d :: ds)) (devices : Option (List USBDevice))
    (s : DriverState) :
    (getDeviceList env devices).run t s =
      let r := ((d :: ds).foldlM (listDevice env) (.errorGeneral, [])).run (t + 1) s
      ⟨(r.value.1, if r.value.1 = .errorNone then some r.value.2 else devices),
        .getDeviceList (d :: ds) :: (r.calls ++ [.freeDeviceList]), r.store⟩ := by
  simp only [getDeviceList, libusbGetDeviceList, hdevs, Except.toOption, Option.getD_some,
    Prog.bind_run, Prog.ask_run, Prog.tell_run, Prog.pure_run, List.length_singleton,
    List.append_nil, List.singleton_append]

/-- **Every entry of a listing was true of its device during the call**, whatever happens meanwhile.
The entries come in the order of the enumeration; a device without one could not be read when its
turn came, and it was not the last. -/
theorem getDeviceList_observed {env : Env} {devs : List Device} {t : ℕ} {s : DriverState}
    (hdevs : (env t).getDeviceList = .ok devs) (hne : devs ≠ [])
    (devices : Option (List USBDevice)) :
    let r := (getDeviceList env devices).run t s
    r.value.1 = .errorNone →
      ∃ listed entries, r.value.2 = some entries ∧ listed.Sublist devs ∧
        List.Forall₂ (fun d entry => Observed env d entry t (t + r.calls.length)) listed entries ∧
        (∀ d ∈ devs, d ∉ listed → Unreadable env d t (t + r.calls.length)) ∧
        listed.getLast? = devs.getLast? := by
  obtain ⟨d, ds, rfl⟩ := List.exists_cons_of_ne_nil hne
  rw [getDeviceList_run hdevs]
  intro r hok
  obtain ⟨listed, entries, hsub, hvalue, hobserved, hleft, hlast⟩ :=
    foldlM_listDevice_observed env (d :: ds) (.errorGeneral, []) (t + 1) s
  simp only [r] at hok ⊢
  generalize ((d :: ds).foldlM (listDevice env) (.errorGeneral, [])).run (t + 1) s = loop at *
  have hlength : t + 1 + loop.calls.length ≤
      t + (Call.getDeviceList (d :: ds) :: (loop.calls ++ [.freeDeviceList])).length := by
    rw [List.length_cons, List.length_append]
    omega
  refine ⟨listed, entries, by rw [if_pos hok, hvalue, List.nil_append], hsub,
    hobserved.imp fun _ _ h => h.mono (by omega) hlength,
    fun d' hd' hnot => (hleft d' hd' hnot).mono (by omega) hlength, hlast hok hne⟩

/-- A bus with a hub and the disk, which is unplugged once the list has been obtained. -/
def sampleUnplugListing : Env := fun t =>
  if t < 1 then sampleOutcomes.enumerating [sampleHub, sampleDisk] else
    { sampleOutcomes with sysfs := sampleSysfsRemoved }

/-- The disk is listed nevertheless, without a path. -/
theorem getDeviceList_observed_sampleUnplugListing :
    let r := (getDeviceList sampleUnplugListing none).run 0 fun _ _ => false
    ∃ listed entries, r.value.2 = some entries ∧ listed.Sublist [sampleHub, sampleDisk] ∧
      List.Forall₂ (fun d entry => Observed sampleUnplugListing d entry 0 (0 + r.calls.length))
        listed entries ∧
      (∀ d ∈ [sampleHub, sampleDisk], d ∉ listed →
        Unreadable sampleUnplugListing d 0 (0 + r.calls.length)) ∧
      listed.getLast? = [sampleHub, sampleDisk].getLast? :=
  getDeviceList_observed rfl (by decide) none (by decide)

/-! ## At rest -/

/-- A block device passes the check for one bus number and address. -/
lemma key_eq_of_matches {fs : Sysfs} {d d' : Device} {deviceName : CxxString}
    (h : Matches fs d deviceName = true) (h' : Matches fs d' deviceName = true) :
    d.key = d'.key := by
  rw [Matches, Bool.and_eq_true, findBlockDevicePathByUsbAddress_fst_iff] at h h'
  obtain ⟨-, path, dir, hlink, hdir, hbus, haddr⟩ := h
  obtain ⟨-, path', dir', hlink', hdir', hbus', haddr'⟩ := h'
  obtain rfl : path = path' := Option.some.inj (hlink.symm.trans hlink')
  have hwalk := walk_eq_some_iff.mpr hdir
  obtain rfl : dir = dir' := Option.some.inj (hwalk.symm.trans (walk_eq_some_iff.mpr hdir'))
  exact Prod.ext (Option.some.inj (hbus.symm.trans hbus'))
    (Option.some.inj (haddr.symm.trans haddr'))

/-- Two devices do not share a disk. -/
lemma key_eq_of_blockDevicePath {fs : Sysfs} {d d' : Device} {path : CxxString}
    (h : blockDevicePath fs d = some path) (h' : blockDevicePath fs d' = some path) :
    d.key = d'.key := by
  have hname : ∀ {x : Device}, blockDevicePath fs x = some path →
      ∃ deviceName, Matches fs x deviceName = true ∧ path = "/dev/".toList ++ deviceName := by
    intro x hx
    unfold blockDevicePath at hx
    split at hx
    · obtain ⟨deviceName, hfind, hpath⟩ := Option.map_eq_some_iff.mp hx
      exact ⟨deviceName, List.find?_some hfind, hpath.symm⟩
    · exact absurd hx (by simp)
  obtain ⟨deviceName, hmatches, hpath⟩ := hname h
  obtain ⟨deviceName', hmatches', hpath'⟩ := hname h'
  obtain rfl : deviceName = deviceName' := List.append_cancel_left (hpath.symm.trans hpath')
  exact key_eq_of_matches hmatches hmatches'

lemma blockDevicePath_of_describe {o : Outcomes} {d : Device} {u : USBDevice}
    (h : describe o d = some u) (hne : u.devicePath ≠ []) :
    blockDevicePath o.sysfs d = some u.devicePath := by
  unfold describe at h
  split at h
  · exact absurd h (by simp)
  · obtain rfl := Option.some.inj h
    dsimp only at hne ⊢
    split_ifs at hne ⊢
    · cases hpath : blockDevicePath o.sysfs d with
      | none => simp [hpath] at hne
      | some path => rfl
    · exact absurd rfl hne

/-- At rest a callback announces the description of the device. -/
lemma libUSBHotPlugCallback_steady (event : Event) (o : Outcomes) (d : Device) (u : USBDevice)
    (t : ℕ) (s : DriverState) :
    ((libUSBHotPlugCallback event o.steady d).run t s).value = some ⟨event, u⟩ ↔
      describe o d = some u := by
  rw [libUSBHotPlugCallback_eq_some_iff, getUSBDeviceStructFromDeviceDescriptor_steady o d t s]
  cases describe o d <;> simp

/-- The entries of a successful listing, device by device. -/
lemma entries_eq {o : Outcomes} {devs : List Device} (hlist : o.getDeviceList = .ok devs) {t : ℕ}
    {s : DriverState} {entries : List USBDevice}
    (hentries : ((getDeviceList o.steady none).run t s).value = (.errorNone, some entries)) :
    entries = devs.filterMap (describe o) := by
  by_cases hne : devs = []
  · simp [getDeviceList, libusbGetDeviceList, Outcomes.steady, hlist, hne, Except.toOption]
      at hentries
  · have ho : o.enumerating devs = o := by rw [Outcomes.enumerating, ← hlist]
    have hvalue := getDeviceList_value o hne none t s
    rw [ho, hentries, Prod.mk.injEq] at hvalue
    obtain ⟨hstatus, hsome⟩ := hvalue
    rw [if_pos hstatus.symm] at hsome
    exact Option.some.inj hsome

/-- **At rest, the listing and the announcements agree.**  What `GetDeviceList` returns is what the
callbacks announce of the enumerated devices, on arrival as on departure, and no two entries share
the name or a disk. -/
theorem getDeviceList_announced {o : Outcomes} {devs : List Device}
    (hlist : o.getDeviceList = .ok devs) (hdistinct : Distinct devs) {t : ℕ} {s : DriverState}
    {entries : List USBDevice}
    (hentries : ((getDeviceList o.steady none).run t s).value = (.errorNone, some entries)) :
    (∀ event u t' s', u ∈ entries ↔
      ∃ d ∈ devs, ((libUSBHotPlugCallback event o.steady d).run t' s').value = some ⟨event, u⟩) ∧
    entries.Pairwise fun u v =>
      u.deviceName ≠ v.deviceName ∧ (u.devicePath ≠ [] → u.devicePath ≠ v.devicePath) := by
  obtain rfl := entries_eq hlist hentries
  refine ⟨fun event u t' s' => ?_, ?_⟩
  · simp only [List.mem_filterMap, libUSBHotPlugCallback_steady]
  · have hkeys : devs.Pairwise fun d d' => d.key ≠ d'.key := List.pairwise_map.mp hdistinct
    refine hkeys.filterMap _ fun d d' hkey u hu v hv => ⟨fun hname => ?_, fun hne hpath => ?_⟩
    · rw [describe_deviceName hu, describe_deviceName hv] at hname
      exact hkey (usbDeviceName_eq_iff.mp hname)
    · have hdisk := blockDevicePath_of_describe hu hne
      have hdisk' := blockDevicePath_of_describe hv (hpath ▸ hne)
      exact hkey (key_eq_of_blockDevicePath hdisk (hpath ▸ hdisk'))

/-- Two devices with a disk each, in a crowded block directory. -/
theorem getDeviceList_announced_sampleCrowded :
    let o := sampleCrowded.enumerating [sampleDisk, samplePortOne]
    let entries : List USBDevice :=
      [⟨classMassStorage, 6, "001/005".toList, "/dev/sda".toList⟩,
        ⟨classMassStorage, 6, "001/006".toList, "/dev/sdb".toList⟩]
    (∀ event u t' s', u ∈ entries ↔
      ∃ d ∈ [sampleDisk, samplePortOne],
        ((libUSBHotPlugCallback event o.steady d).run t' s').value = some ⟨event, u⟩) ∧
    entries.Pairwise fun u v =>
      u.deviceName ≠ v.deviceName ∧ (u.devicePath ≠ [] → u.devicePath ≠ v.devicePath) := by
  have hentries : ((getDeviceList (sampleCrowded.enumerating [sampleDisk, samplePortOne]).steady
      none).run 0 fun _ _ => false).value =
      (.errorNone, some [⟨classMassStorage, 6, "001/005".toList, "/dev/sda".toList⟩,
        ⟨classMassStorage, 6, "001/006".toList, "/dev/sdb".toList⟩]) := by decide
  exact getDeviceList_announced rfl (by decide) hentries

end Usb
