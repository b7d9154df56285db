/-
  Graviton.Items — the safety checklist as a table.

  Every case of `safety_check` but two empty ones reads one register, converts it and judges
  the value. `item k` says for case `k` which register, which conversion, which limit and
  which texts; `safetyCase_item` is that the switch does just this. A check that finds its
  limit broken shuts down at once, with the item's texts and the value (`check_shutdown`);
  one that does not returns (`check_passes`).
-/
import Graviton.Checks

namespace Graviton

open Effects

/-! ## Sensors and limits -/

/-- A register of an AMC7891, and what its value stands for. -/
structure Sensor where
  chip : Afe
  addr : UInt8
  convert : UInt16 → Int32

def Sensor.read (s : Sensor) : Fw Int32 := do return s.convert (← Amc7891.readReg s.chip s.addr)

/-- What the sensor reads at `w`. -/
def Sensor.value (s : Sensor) (env : Env) (w : World) : Int32 := s.convert (env.register s.chip s.addr w)

/-- What is asked of a value: not to be bad, or to keep the record of a soft limit. -/
inductive Limit where
  | hard (bad : Int32 → Bool) (reason reason2 : String)
  | soft (p : SoftRail)

/-- Does the value call for a shutdown? -/
def Limit.Broken (soft : SoftRail → SoftBottomTolerance) (value : Int32) : Limit → Prop
  | .hard bad _ _ => bad value = true
  | .soft p => (soft p).Broken value

/-- The text of the shutdown. -/
def Limit.reason (soft : SoftRail → SoftBottomTolerance) : Limit → String
  | .hard _ reason _ => reason
  | .soft p => (soft p).msg

def Limit.reason2 (soft : SoftRail → SoftBottomTolerance) : Limit → String
  | .hard _ _ reason2 => reason2
  | .soft p => (soft p).name

structure Item where
  sensor : Sensor
  limit : Limit

def Item.check (i : Item) : Fw Unit :=
  match i.limit with
  | .hard bad reason reason2 => hardCheck i.sensor.read bad reason reason2
  | .soft p => softCheck i.sensor.read p

/-! ## The checklist -/

def adcSensor (c : Afe) (channel : AdcChannel) (gain : Gain) (f : UInt32 → Int32) : Sensor :=
  ⟨c, Amc7891.adcData channel, fun r => f (mvOf r gain)⟩

def tempSensor (c : Afe) : Sensor := ⟨c, amcTempData, fun r => (r / 8).toUInt32.toInt32⟩

def lm20Sensor (c : Afe) (channel : AdcChannel) : Sensor := adcSensor c channel .gain1x fun mv =>
    (lm20ConvMvDegc mv).toInt32

def chipItem (c : Afe) (reason reason2 : String) : Item := ⟨tempSensor c, .hard (above 60) reason reason2⟩

def lm20Item (c : Afe) (channel : AdcChannel) (limit : Int32) (reason reason2 : String) : Item :=
  ⟨lm20Sensor c channel, .hard (above limit) reason reason2⟩

/-- The items of the checklist; 15 and 21 are empty. -/
def item : Nat → Option Item
  | 0 => some ⟨adcSensor .afe0 gravAdcV2v5 .gain1x UInt32.toInt32, .hard (outside 1500 2600) "2.5V rail out of spec" "2.5"⟩
  | 1 => some ⟨adcSensor .afe0 gravAdcV1v8 .gain1x UInt32.toInt32, .hard (outside 1700 1900) "1.8V rail out of spec" "1.8"⟩
  | 2 => some ⟨adcSensor .afe0 gravAdcV3v8 .gain2x UInt32.toInt32, .soft .v3v8v⟩
  | 3 => some ⟨adcSensor .afe0 gravAdcV5v5 .gain1x fun mv => (convMvV5v5 mv).toInt32, .soft .v5v5v⟩
  | 4 => some ⟨adcSensor .afe0 gravAdcV5v5n .gain1x convMvV5v5n, .soft .v5v5vneg⟩
  | 5 => some ⟨adcSensor .afe0 gravAdcV29 .gain1x fun mv => (convMvV29 mv).toInt32,
      .hard (outside 28000 29500) "29V rail out of spec" "29"⟩
  | 6 => some (chipItem .afeA "AFE #A overheated" "AFE #A")
  | 7 => some (chipItem .afeB "AFE #B overheated" "AFE #B")
  | 8 => some (chipItem .afe0 "Main AFE overheated" "Main AFE")
  | 9 => some (lm20Item .afe0 gravAdcAdcTemp 70 "ADC overheated" "ADC")
  | 10 => some (lm20Item .afeA gravAdcTPreRx 70 "RX preamp #A overheated" "RX preamp #A")
  | 11 => some (lm20Item .afeA gravAdcTLdo 70 "LDO #A overheated" "LDO #A")
  | 12 => some (lm20Item .afeA gravAdcTPa 90 "PA #A overheated" "PA #A")
  | 13 => some (lm20Item .afeA gravAdcTPreTx2 70 "TX preamp 2 #A overheated" "TX preamp 2 #A")
  | 14 => some (lm20Item .afeA gravAdcTPreTx3 70 "TX preamp 3 #A overheated" "TX preamp 3 #A")
  | 16 => some (lm20Item .afeB gravAdcTPreRx 70 "RX preamp #B overheated" "RX preamp #B")
  | 17 => some (lm20Item .afeB gravAdcTLdo 70 "LDO #B overheated" "LDO #B")
  | 18 => some (lm20Item .afeB gravAdcTPa 90 "PA #B overheated" "PA #B")
  | 19 => some (lm20Item .afeB gravAdcTPreTx2 70 "TX preamp 2 #B overheated" "TX preamp 2 #B")
  | 20 => some (lm20Item .afeB gravAdcTPreTx3 70 "TX preamp 3 #B overheated" "TX preamp 3 #B")
  | _ => none

theorem item_le {k : Nat} {i : Item} (h : item k = some i) : k ≤ 21 := by
  unfold item at h
  split at h <;> cases h <;> decide

/-- What a case does: the check of its item, or nothing. -/
def itemCheck (k : Nat) : Fw Unit :=
  match item k with
  | some i => i.check
  | none => pure ()

/-- The switch of `safety_check` runs the checklist. -/
theorem safetyCase_item {k : Nat} {body : Fw Unit} (hb : safetyCase k = some body) : body = itemCheck k := by
  unfold safetyCase at hb
  split at hb <;> cases hb <;>
    simp only [itemCheck, item, Item.check, chipItem, lm20Item, Sensor.read, adcSensor, tempSensor, lm20Sensor,
      tempCheck, lm20Check, asInt32, v2v5, v1v8, v3v8, v5v5, v5v5n, v29, lm20, getMv, Amc7891.readAdc,
      Amc7891.readTemperature, bind_assoc, pure_bind]

theorem safetyCase_of_le {k : Nat} (h : k ≤ 21) : safetyCase k = some (itemCheck k) := by
  obtain ⟨body, hb⟩ := Option.isSome_iff_exists.mp ((safetyCase_isSome k).mpr h)
  rw [hb, safetyCase_item hb]

/-! ## A check -/

section

variable (env : Env) {w : World} (h : w.Idle) (i : Item)

include h

theorem sensor_read (s : Sensor) : s.read env w = .ok (s.value env w) (w.didRead env s.chip s.addr) := by
  unfold Sensor.read
  rw [run_bind_ok (readReg_run h s.chip s.addr env)]
  rfl

theorem sensor_reading (s : Sensor) : Reading s.read (s.value env w) env w :=
  ⟨_, sensor_read env h s, didRead_quiet h env s.chip s.addr⟩

/-- A broken record shuts the board down. -/
theorem tolerance_shutdown {p : SoftRail} {value : Int32} (hb : (w.mem.soft p).Broken value) :
    ∃ w', shutdown (w.mem.soft p).msg (some (w.mem.soft p).name) value env w = .ok () w' ∧
      goSafeAndResetTolerance p value env w = .error .systemReset w' := by
  obtain ⟨w', hs, _, _⟩ := shutdown_run (w.mem.soft p).msg (some (w.mem.soft p).name) value env h
  refine ⟨w', hs, ?_⟩
  unfold goSafeAndResetTolerance
  rw [run_bind_ok (run_getMem env _)]
  rcases hb with hhard | ⟨htol, hrep⟩
  · rw [if_pos hhard]
    exact goSafeAndReset_run hs
  · rw [if_pos htol, if_pos hrep, ite_self]
    exact goSafeAndReset_run hs

/-- A broken limit shuts the board down, with the item's texts and the value just read. -/
theorem check_shutdown (hb : i.limit.Broken w.mem.soft (i.sensor.value env w)) :
    ∃ w', shutdown (i.limit.reason w.mem.soft) (some (i.limit.reason2 w.mem.soft)) (i.sensor.value env w) env
        (w.didRead env i.sensor.chip i.sensor.addr) = .ok () w' ∧ i.check env w = .error .systemReset w' := by
  obtain ⟨s, limit⟩ := i
  have hq := didRead_quiet h env s.chip s.addr
  have hr := sensor_read env h s
  cases limit with
  | hard bad reason reason2 =>
    have hbad : bad (s.value env w) = true := hb
    obtain ⟨w', hs, _, _⟩ := shutdown_run reason (some reason2) (s.value env w) env hq.step.idle
    refine ⟨w', hs, ?_⟩
    show hardCheck s.read bad reason reason2 env w = _
    unfold hardCheck
    rw [run_bind_ok hr, if_pos hbad]
    exact goSafeAndReset_run hs
  | soft p =>
    have hbroken : ((w.didRead env s.chip s.addr).mem.soft p).Broken (s.value env w) := by
      rw [hq.mem]
      exact hb
    obtain ⟨w', hs, ht⟩ := tolerance_shutdown env hq.step.idle hbroken
    rw [hq.mem] at hs
    refine ⟨w', hs, ?_⟩
    show softCheck s.read p env w = _
    unfold softCheck
    rw [run_bind_ok hr]
    exact run_bind_error ht _

theorem check_resets : Resets i.check env w ↔ i.limit.Broken w.mem.soft (i.sensor.value env w) := by
  obtain ⟨s, limit⟩ := i
  have hr := sensor_reading env h s
  cases limit with
  | hard bad reason reason2 => exact hardCheck_resets bad reason reason2 hr
  | soft p => exact softCheck_resets p hr

/-- A call on an enabled item resets exactly if its limit is broken. -/
theorem item_resets {k : UInt16} {i : Item} (hi : item k.toNat = some i)
    (he : Enabled w.mem.disableSafteyVector k.toNat) :
    Resets (safetyCheck k) env w ↔ i.limit.Broken w.mem.soft (i.sensor.value env w) := by
  have hb := safetyCase_of_le (item_le hi)
  rw [itemCheck, hi] at hb
  rw [resets_item hb he, check_resets env h]

/-- The soft limits' records after a check that found `value`. -/
def Limit.after (soft : SoftRail → SoftBottomTolerance) (value : Int32) : Limit → SoftRail → SoftBottomTolerance
  | .hard _ _ _ => soft
  | .soft p => Function.update soft p ((soft p).after value)

/-- A check whose limit holds only counts. -/
theorem check_passes (hb : ¬ i.limit.Broken w.mem.soft (i.sensor.value env w)) :
    ∃ w', i.check env w = .ok () w' ∧ Step w w' [] [] ∧
      w'.mem = { w.mem with soft := i.limit.after w.mem.soft (i.sensor.value env w) } := by
  obtain ⟨s, limit⟩ := i
  have hr := sensor_reading env h s
  cases limit with
  | hard bad reason reason2 =>
    have hbad : bad (s.value env w) = false := Bool.eq_false_iff.mpr hb
    obtain ⟨w', hr', hq⟩ := hardCheck_passes reason reason2 hr hbad
    exact ⟨w', hr', hq.step, hq.mem⟩
  | soft p => exact softCheck_run p hr hb

end

end Graviton
