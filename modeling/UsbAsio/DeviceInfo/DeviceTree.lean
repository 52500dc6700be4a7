import UsbAsio.Error
import UsbAsio.Forest.Basic
import UsbAsio.Multimap.Basic

/-!
# The tree of devices

The program in `examples/example_enumeration.cpp`: it lists the devices, collects in a multimap the
devices below each device, and prints every device that has no parent together with the tree below
it. The recursion need not end on an arbitrary multimap, so it is run with fuel; the one that the
program collects it gets through.
-/

namespace UsbAsio.DeviceTree

open Forest

/-- `libusb_device_descriptor`, as far as it is printed. -/
structure DeviceDescriptor where
  idVendor : UInt16
  idProduct : UInt16

/-- What a `usb_device_info` says of its device. Two of its members may throw. -/
structure DeviceInfo (δ : Type) where
  parent : δ → Option δ
  busNumber : δ → UInt8
  portNumbers : δ → Except ErrorCode (List UInt8)
  deviceAddress : δ → UInt8
  deviceSpeed : δ → ℤ
  deviceDescriptor : δ → Except ErrorCode DeviceDescriptor

/-- What is printed, with the number of blanks in front. -/
inductive Line where
  | found (n : ℕ)
  | device (indent : ℕ) (bus : UInt8) (portPath : List UInt8) (address : UInt8) (speed : ℤ)
  | ids (indent : ℕ) (vid pid : UInt16)

inductive Stop where
  | outOfFuel
  | thrown (ec : ErrorCode)

/-- A piece of the program, with the lines printed so far. -/
abbrev Printer := EStateM Stop (List Line)

def print (line : Line) : Printer Unit := modify (· ++ [line])

def orThrow {α : Type} : Except ErrorCode α → Printer α
  | .ok a     => return a
  | .error ec => throw (.thrown ec)

variable {δ : Type} [LinearOrder δ]

/-- `print_device_tree`, up to its loop. -/
def printDevice (info : DeviceInfo δ) (dev : δ) (depth : ℕ) : Printer Unit := do
  let indent := 2 * depth
  let ports ← orThrow (info.portNumbers dev)
  print (.device indent (info.busNumber dev) ports (info.deviceAddress dev) (info.deviceSpeed dev))
  let descriptor ← orThrow (info.deviceDescriptor dev)
  print (.ids indent descriptor.idVendor descriptor.idProduct)

def printDeviceTree (info : DeviceInfo δ) (tree : Multimap δ δ) : ℕ → δ → ℕ → Printer Unit
  | 0, _, _              => throw .outOfFuel
  | fuel + 1, dev, depth => do
    printDevice info dev depth
    forM (tree.values dev) fun child => printDeviceTree info tree fuel child (depth + 1)

/-- The body of the loop over `devices`. -/
def addDevice (info : DeviceInfo δ) (s : Multimap δ δ × List δ) (dev : δ) :
    Multimap δ δ × List δ :=
  match info.parent dev with
  | some parent => (s.1.emplace parent dev, s.2)
  | none        => (s.1, s.2 ++ [dev])

/-- `device_tree` and `root_devices`. -/
def collect (info : DeviceInfo δ) (devices : List δ) : Multimap δ δ × List δ :=
  devices.foldl (addDevice info) (.empty, [])

/-- `main()`, once `list_usb_devices` has returned. -/
def main (info : DeviceInfo δ) (devices : List δ) (fuel : ℕ) : Printer Unit := do
  print (.found devices.length)
  let (deviceTree, rootDevices) := collect info devices
  forM rootDevices fun dev => printDeviceTree info deviceTree fuel dev 0

/-! ### What is collected -/

variable (info : DeviceInfo δ) (devices : List δ)

lemma collect_append (dev : δ) :
    collect info (devices ++ [dev]) = addDevice info (collect info devices) dev := by
  rw [collect, List.foldl_append]
  rfl

lemma collect_roots : (collect info devices).2 = roots info.parent devices := by
  induction devices using List.reverseRecOn with
  | nil => rfl
  | append_singleton devices dev ih =>
    rw [collect_append, addDevice, roots, List.filter_append, ← roots, ← ih]
    cases hparent : info.parent dev <;> simp [hparent]

/-- The values of a device are the devices below it, in the order of the list. -/
lemma collect_children (p : δ) :
    (collect info devices).1.values p = children info.parent devices p := by
  induction devices using List.reverseRecOn with
  | nil => rfl
  | append_singleton devices dev ih =>
    rw [collect_append, addDevice, children, List.filter_append, ← children, ← ih]
    cases hparent : info.parent dev with
    | none => simp [hparent]
    | some parent =>
      rw [Multimap.values_emplace]
      by_cases heq : parent = p <;> simp [hparent, heq]

/-! ### What is printed -/

/-- The devices of a walk, one after the other. -/
def printAll (visited : List (δ × ℕ)) : Printer Unit :=
  forM visited fun p => printDevice info p.1 p.2

omit [LinearOrder δ] in
lemma printAll_flatMap {α : Type} (l : List α) (f : α → List (δ × ℕ)) :
    printAll info (l.flatMap f) = forM l fun a => printAll info (f a) := by
  induction l with
  | nil => rfl
  | cons a l ih =>
    rw [List.flatMap_cons, printAll, List.forM_append, List.forM_cons, ← ih]
    rfl

omit [LinearOrder δ] in
lemma forM_congr {α : Type} {l : List α} {f g : α → Printer Unit} (h : ∀ a ∈ l, f a = g a) :
    forM l f = forM l g := by
  induction l with
  | nil => rfl
  | cons a l ih =>
    obtain ⟨ha, hl⟩ := List.forall_mem_cons.mp h
    rw [List.forM_cons, List.forM_cons, ha, ih hl]

variable {info devices} in
/-- A device of the forest is printed with all that is below it. -/
lemma printDeviceTree_eq {fuel depth : ℕ} {dev : δ} (hdev : At info.parent devices dev depth)
    (hfuel : devices.length ≤ fuel + depth) :
    printDeviceTree info (collect info devices).1 fuel dev depth =
      printAll info (walk info.parent devices fuel depth dev) := by
  induction fuel generalizing dev depth with
  | zero =>
    have hlt := hdev.lt_length
    omega
  | succ fuel ih =>
    have hrest : ∀ child ∈ children info.parent devices dev,
        printDeviceTree info (collect info devices).1 fuel child (depth + 1) =
          printAll info (walk info.parent devices fuel (depth + 1) child) := by
      intro child hchild
      exact ih (hdev.of_children hchild) (by omega)
    rw [printDeviceTree, walk, printAll, List.forM_cons, ← printAll, printAll_flatMap,
      collect_children, forM_congr hrest]

/-- The recursion is not cut short: where `p` stops before its end, an exception has left it. -/
def Ends {α : Type} (p : Printer α) : Prop := ∀ lines lines', p.run lines ≠ .error .outOfFuel lines'

lemma ends_pure {α : Type} (a : α) : Ends (pure a : Printer α) := nofun

lemma ends_print (line : Line) : Ends (print line) := nofun

lemma ends_orThrow {α : Type} (r : Except ErrorCode α) : Ends (orThrow r) := by
  cases r <;> exact nofun

lemma Ends.bind {α β : Type} {p : Printer α} {f : α → Printer β} (hp : Ends p)
    (hf : ∀ a, Ends (f a)) : Ends (p >>= f) := by
  intro lines lines' h
  cases hrun : p.run lines with
  | ok a lines'' =>
    refine hf a lines'' lines' (Eq.trans ?_ h)
    show _ = EStateM.bind p f lines
    rw [EStateM.bind, show p lines = _ from hrun]
    rfl
  | error e lines'' =>
    refine hp lines lines' (Eq.trans hrun ?_)
    have hbind : (p >>= f).run lines = .error e lines'' := by
      show EStateM.bind p f lines = _
      rw [EStateM.bind, show p lines = _ from hrun]
    rw [hbind] at h
    cases h
    rfl

omit [LinearOrder δ] in
lemma ends_printDevice (dev : δ) (depth : ℕ) : Ends (printDevice info dev depth) := by
  refine (ends_orThrow _).bind fun ports => (ends_print _).bind fun _ => ?_
  exact (ends_orThrow _).bind fun descriptor => ends_print _

omit [LinearOrder δ] in
lemma ends_printAll (visited : List (δ × ℕ)) : Ends (printAll info visited) := by
  induction visited with
  | nil => exact ends_pure _
  | cons p visited ih => exact (ends_printDevice info p.1 p.2).bind fun _ => ih

/-- The program comes to its end, or to an exception of one of the devices, whatever the parents
are. It prints one after the other, and each once, the devices from which one comes to a device
without a parent through listed devices, indented by their depth, and the tree can be read off the
indentation. -/
theorem main_prints_forest (hdevices : devices.Nodup) (fuel : ℕ) (hfuel : devices.length ≤ fuel) :
    Ends (main info devices fuel) ∧ ∃ visited : List (δ × ℕ),
      (∀ dev depth, (dev, depth) ∈ visited ↔ At info.parent devices dev depth) ∧
      (visited.map Prod.fst).Nodup ∧ Legible info.parent [] visited ∧
      main info devices fuel =
        (do print (.found devices.length); printAll info visited) := by
  have hmain : main info devices fuel =
      (do print (.found devices.length); printAll info (preorder info.parent devices)) := by
    rw [← preorder_eq hfuel, printAll_flatMap, main]
    simp only [collect_roots]
    rw [forM_congr fun dev hdev => printDeviceTree_eq (.of_roots hdev) hfuel]
  refine ⟨?_, preorder info.parent devices, fun _ _ => mem_preorder, nodup_preorder hdevices,
    legible_preorder, hmain⟩
  rw [hmain]
  exact (ends_print _).bind fun _ => ends_printAll info _

/-- A hub with a hub and a device below it, and a device whose hub is not listed. -/
theorem main_prints_forest_hubs :
    let parent : ℕ → Option ℕ := fun dev =>
      if dev = 2 then some 1 else if dev = 3 then some 2 else if dev = 5 then some 9 else none
    let info : DeviceInfo ℕ :=
      ⟨parent, fun _ => 1, fun _ => .ok [], fun _ => 0, fun _ => 3, fun _ => .ok ⟨0, 0⟩⟩
    ∃ visited, (3, 2) ∈ visited ∧ (visited.map Prod.fst).Nodup ∧
      main info [3, 1, 5, 2] 4 = (do print (.found 4); printAll info visited) := by
  intro parent info
  obtain ⟨-, visited, hmem, hnodup, -, hmain⟩ :=
    main_prints_forest info [3, 1, 5, 2] (by decide) 4 (by decide)
  refine ⟨visited, (hmem 3 2).mpr ?_, hnodup, hmain⟩
  exact .child (by decide) rfl (.child (p := 1) (by decide) rfl (.root (by decide) rfl))

end UsbAsio.DeviceTree
