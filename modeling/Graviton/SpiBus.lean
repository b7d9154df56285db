/-
  Graviton.SpiBus — the bus of `Graviton.Bus` is what the peripheral of `Graviton.Spi` does.

  `Related` ties a world to a chip between two operations: the same memory, no chip selected,
  the same units and select edges on the wires, and the registers programmed for the format
  and the clock asked for. Operation by operation the chip refines the bus and remembers the
  clock asked for (`op_wp`), so every program of operations does. On the way no register is
  written, no chip selected and nothing printed while a unit is under way (`Orderly`).
-/
import Mathlib.Data.List.GetD
import Mathlib.Tactic.IntervalCases
import Graviton.Spi

namespace Graviton.Spi

open Effects History

/-! ## The wire -/

/-- The format the peripheral makes of the arguments of `SPI::format`. -/
def clocked (f : Format) : Format := ⟨if f.bits = 16 then 16 else 8, if f.mode < 3 then f.mode else 3⟩

/-- The first `n` units of a transfer. -/
def units (f : Frame) (n : Nat) : List Wire :=
  ((f.mosi.take n).map fun b => Wire.unit f.low (clocked f.format) b.toUInt16).reverse

/-- The edges of the selects before and after a transfer. -/
def edges (f : Frame) (v : Bool) : List Wire := f.low.map fun s => .edge s v

/-- What crossed the board, as the log of the bus has it. -/
def busWire : List Event → List Wire
  | [] => []
  | .frame f _ :: l => edges f true ++ (units f f.mosi.length ++ (edges f false ++ busWire l))
  | e :: l => .other e :: busWire l

/-- The world of `Graviton.Bus` that the board is. -/
def Board.env (hw : Board) : Env where
  miso l f i := (hw.shift (units f (i + 1) ++ (edges f false ++ busWire l))).toUInt8
  extOsc l := hw.extOsc (busWire l)
  intOsc l := hw.intOsc (busWire l)
  readable l := hw.readable (busWire l)
  getc l := hw.getc (busWire l)
  devId := hw.devId
  lm5331 := hw.lm5331

theorem units_succ {f : Frame} {n : Nat} {b : UInt8} (h : f.mosi[n]? = some b) :
    units f (n + 1) = .unit f.low (clocked f.format) b.toUInt16 :: units f n := by
  unfold units
  rw [List.take_add_one, h]
  simp

/-! ## Histories -/

/-- The data register is read and written right after its flag was seen, one unit at a time;
    no register is written, no chip selected and nothing else done while a unit is under way. -/
def Orderly (start : SpiReg → Word) : List Access → Prop
  | .transmit _ _ :: l =>
    (∃ v k, l = .status v :: k ∧ v &&& srTxe ≠ 0) ∧ unread l = 0 ∧ value start l .cr1 &&& cr1Spe ≠ 0
  | .receive _ _ :: l => (∃ v k, l = .status v :: k ∧ v &&& srRxne ≠ 0) ∧ unread l = 1
  | .write _ _ :: l => unread l = 0
  | .select _ _ :: l => unread l = 0
  | .other _ :: l => unread l = 0
  | _ => True

/-- Accesses that neither move data nor leave the peripheral. -/
def Access.Control : Access → Prop
  | .read _ _ => True
  | .write _ _ => True
  | .status _ => True
  | .pclk2 _ => True
  | _ => False

variable {start : SpiReg → Word} {n l : List Access}

theorem control_append (start : SpiReg → Word) (h : ∀ a ∈ n, a.Control) :
    low (n ++ l) = low l ∧ unread (n ++ l) = unread l ∧ wire start (n ++ l) = wire start l := by
  induction n with
  | nil => exact ⟨rfl, rfl, rfl⟩
  | cons a n ih =>
    have hn := ih fun b hb => h b (List.mem_cons_of_mem a hb)
    have ha := h a List.mem_cons_self
    cases a with
    | read r v => exact hn
    | write r v => exact hn
    | status v => exact hn
    | pclk2 v => exact hn
    | transmit wide v => exact ha.elim
    | receive wide v => exact ha.elim
    | select s v => exact ha.elim
    | other e => exact ha.elim

theorem orderly_control {a : Access} (h : a.Control) (hl : unread l = 0) : Orderly start (a :: l) := by
  cases a with
  | write r v => exact hl
  | read r v => trivial
  | status v => trivial
  | pclk2 v => trivial
  | transmit wide v => exact h.elim
  | receive wide v => exact h.elim
  | select s v => exact h.elim
  | other e => exact h.elim

theorem always_control (h : ∀ a ∈ n, a.Control) (hl : unread l = 0) (ho : Always (Orderly start) l) :
    Always (Orderly start) (n ++ l) := by
  induction n with
  | nil => exact ho
  | cons a n ih =>
    have hn := fun b hb => h b (List.mem_cons_of_mem a hb)
    have hu : unread (n ++ l) = 0 := (control_append start hn).2.1.trans hl
    exact always_cons.mpr ⟨orderly_control (h a List.mem_cons_self) hu, ih hn⟩

/-- The last clock frequency read. -/
def lastClock : List Access → UInt32
  | .pclk2 v :: _ => v
  | _ :: l => lastClock l
  | [] => 0

/-- The history after `m` more polls of the status register. -/
def polled (hw : Board) (l : List Access) : Nat → List Access
  | 0 => l
  | m + 1 => .status (hw.status (polled hw l m)) :: polled hw l m

theorem polled_eq (hw : Board) (l : List Access) (m : Nat) :
    ∃ n, polled hw l m = n ++ l ∧ ∀ a ∈ n, ∃ v, a = .status v := by
  induction m with
  | zero => exact ⟨[], rfl, fun _ h => absurd h List.not_mem_nil⟩
  | succ m ih =>
    obtain ⟨n, hn, ha⟩ := ih
    exact ⟨.status (hw.status (polled hw l m)) :: n, by rw [polled, hn]; rfl, List.forall_mem_cons.mpr ⟨⟨_, rfl⟩, ha⟩⟩

theorem polled_control (start : SpiReg → Word) (hw : Board) (l : List Access) (m : Nat) :
    ∃ n, polled hw l m = n ++ l ∧ (∀ a ∈ n, a.Control) ∧ (∀ r, value start (n ++ l) r = value start l r) ∧
      lastClock (n ++ l) = lastClock l := by
  obtain ⟨n, hn, ha⟩ := polled_eq hw l m
  refine ⟨n, hn, fun a h => ?_, ?_⟩
  · obtain ⟨v, rfl⟩ := ha a h
    trivial
  · clear hn
    induction n with
    | nil => exact ⟨fun _ => rfl, rfl⟩
    | cons a n ih =>
      obtain ⟨v, rfl⟩ := ha a List.mem_cons_self
      exact ih fun b hb => ha b (List.mem_cons_of_mem _ hb)

theorem value_write_self (start : SpiReg → Word) (r : SpiReg) (v : Word) (l : List Access) :
    value start (.write r v :: l) r = v := if_pos rfl

/-! ## The hardware -/

/-- Within `K` polls an enabled peripheral takes a unit, and brings one back that is under way. -/
structure Prompt (hw : Board) (K : Nat) : Prop where
  txe : ∀ l, hw.value l .cr1 &&& cr1Spe ≠ 0 → ∃ m < K, hw.status (polled hw l m) &&& srTxe ≠ 0
  rxne : ∀ l, hw.value l .cr1 &&& cr1Spe ≠ 0 → 0 < unread l → ∃ m < K, hw.status (polled hw l m) &&& srRxne ≠ 0

variable {hw : Board} {d : Chip} {fuel : Nat}

/-- From `d`, with `left` polls left, none saw the flag so far. -/
def Waiting (hw : Board) (d : Chip) (flag : Word) (fuel left : Nat) (d' : Chip) : Prop :=
  ∃ m, m + left = fuel ∧ d' = { d with log := polled hw d.log m } ∧ ∀ k < m, hw.status (polled hw d.log k) &&& flag = 0

/-- A wait ends after a poll that saw the flag, or is stuck because none of its polls did. -/
theorem waitFlag_wp (flag : Word) :
    wp (waitFlag fuel flag)
      (fun _ d' => ∃ m, d' = { d with log := polled hw d.log (m + 1) } ∧ hw.status (polled hw d.log m) &&& flag ≠ 0)
      (fun x d' => x = .stuck ∧ d' = { d with log := polled hw d.log fuel } ∧
        ∀ m < fuel, hw.status (polled hw d.log m) &&& flag = 0) hw d := by
  have hstart : Waiting hw d flag fuel fuel d := ⟨0, Nat.zero_add fuel, rfl, fun k hk => absurd hk (Nat.not_lt_zero k)⟩
  refine pollWhile_wp (I := Waiting hw d flag fuel) (J := Waiting hw d flag fuel) ?_ ?_ ?_ hstart
  · rintro left _ ⟨m, hm, rfl, hk⟩
    refine wp_bind.mpr (wp_of_ok rfl (wp_pure.mpr ⟨fun hb => ?_, fun hb => ?_⟩))
    · refine ⟨m + 1, by omega, rfl, fun k hlt => ?_⟩
      rcases Nat.lt_succ_iff_lt_or_eq.mp hlt with hlt | rfl
      · exact hk k hlt
      · exact eq_of_beq hb
    · exact ⟨m, rfl, ne_of_beq_false hb⟩
  · intro left d' h
    exact wp_pure.mpr ⟨fun hb => absurd hb (by decide), fun _ => h⟩
  · rintro _ ⟨m, hm, rfl, hk⟩
    obtain rfl : m = fuel := hm
    exact ⟨rfl, rfl, hk⟩

/-! ## Programming the peripheral -/

/-- What `HAL_SPI_Init` writes to CR1 and CR2. -/
def SpiInit.cr1 (i : SpiInit) : Word :=
  i.mode ||| i.direction ||| i.clkPolarity ||| i.clkPhase ||| i.nss &&& cr1Ssm ||| i.baudRatePrescaler |||
    i.firstBit ||| i.crcCalculation

def SpiInit.cr2 (i : SpiInit) : Word :=
  (i.nss >>> 16 &&& cr2Ssoe ||| i.tiMode ||| i.nssPMode ||| i.dataSize) |||
    if datasize8Bit < i.dataSize then rxfifoThresholdHf else rxfifoThresholdQf

/-- The fields for a format and a prescaler. -/
def initOf (f : Format) (br : Word) : SpiInit where
  mode := modeMaster
  direction := direction2Lines
  dataSize := if f.bits = 16 then datasize16Bit else datasize8Bit
  clkPolarity := (polarityPhase f.mode).1
  clkPhase := (polarityPhase f.mode).2
  nss := nssSoft
  baudRatePrescaler := br
  firstBit := firstbitMsb
  tiMode := timodeDisable
  nssPMode := 0
  crcCalculation := crccalculationDisable

/-- The peripheral's registers hold what `i` says, and it is enabled. -/
structure Programmed (hw : Board) (d : Chip) : Prop where
  cr1 : hw.value d.log .cr1 = d.init.cr1 ||| cr1Spe
  cr2 : hw.value d.log .cr2 = d.init.cr2

theorem set_spe (v : Word) : v &&& ~~~0 ||| cr1Spe = v ||| cr1Spe := by
  have h0 : ~~~(0 : Word) = BitVec.allOnes 32 := rfl
  rw [h0, BitVec.and_allOnes]

theorem initSpi_run (hw : Board) (hc : d.init.crcCalculation = crccalculationDisable)
    (hd : d.init.direction = direction2Lines) :
    ∃ n, initSpi hw d = .ok () { d with log := n ++ d.log } ∧ (∀ a ∈ n, a.Control) ∧
      lastClock (n ++ d.log) = lastClock d.log ∧ Programmed hw { d with log := n ++ d.log } := by
  obtain ⟨bits, mode, hz, owner, fill, ⟨mode', direction, dataSize, polarity, phase, nss, br, firstBit, tiMode,
    nssPMode, crc⟩, mem, log⟩ := d
  obtain rfl : crc = crccalculationDisable := hc
  obtain rfl : direction = direction2Lines := hd
  refine ⟨[_, _, _, _, _, _, _, _], rfl, ?_, rfl, ⟨?_, rfl⟩⟩
  · simp [Access.Control]
  · exact (value_write_self hw.start _ _ _).trans (set_spe _)

theorem spiFormat_run (hw : Board) {f : Format} {br : Word} (hi : d.init = initOf f br) (bits mode : Nat) :
    ∃ n, spiFormat bits mode hw d = .ok () { d with init := initOf ⟨bits, mode⟩ br, log := n ++ d.log } ∧
      (∀ a ∈ n, a.Control) ∧ lastClock (n ++ d.log) = lastClock d.log ∧
      Programmed hw { d with init := initOf ⟨bits, mode⟩ br, log := n ++ d.log } := by
  have hset : setInit (fun i =>
      { i with
        dataSize := if bits = 16 then datasize16Bit else datasize8Bit
        clkPolarity := (polarityPhase mode).1, clkPhase := (polarityPhase mode).2
        nss := if i.nss ≠ nssSoft then nssHardOutput else i.nss, mode := modeMaster }) hw d =
      .ok () { d with init := initOf ⟨bits, mode⟩ br } := by
    obtain ⟨_, _, _, _, _, i, _, _⟩ := d
    obtain rfl : i = initOf f br := hi
    rfl
  unfold spiFormat
  rw [run_bind_ok hset]
  exact initSpi_run hw (d := { d with init := initOf ⟨bits, mode⟩ br }) rfl rfl

/-- The prescaler `spi_frequency` picks for a clock. -/
def rankFor (hz : Int) (clock : UInt32) : Nat := prescalerRank hz 7 (clock.toInt32.toInt.tdiv 2) 0

def prescaler (hz : Int) (clock : UInt32) : Word := baudratePrescalerTable.getD (rankFor hz clock) 0

theorem spiFrequency_run (hw : Board) {f : Format} {br : Word} (hi : d.init = initOf f br) (hz : Int) :
    ∃ n, spiFrequency hz hw d = .ok () { d with init := initOf f (prescaler hz (hw.pclk2 d.log)), log := n ++ d.log } ∧
      (∀ a ∈ n, a.Control) ∧ lastClock (n ++ d.log) = hw.pclk2 d.log ∧
      Programmed hw { d with init := initOf f (prescaler hz (hw.pclk2 d.log)), log := n ++ d.log } := by
  obtain ⟨bits, mode, hz', owner, fill, i, mem, log⟩ := d
  obtain rfl : i = initOf f br := hi
  have hinit := initSpi_run hw (d := ⟨bits, mode, hz', owner, fill, initOf f (prescaler hz (hw.pclk2 log)), mem,
    .pclk2 (hw.pclk2 log) :: log⟩) rfl rfl
  obtain ⟨n, hr, hn, hc, hp⟩ := hinit
  refine ⟨n ++ [.pclk2 (hw.pclk2 log)], ?_, ?_, ?_, ?_⟩
  · rw [List.append_assoc]
    exact hr
  · exact List.forall_mem_append.mpr ⟨hn, fun a ha => by rw [List.mem_singleton.mp ha]; trivial⟩
  · rw [List.append_assoc]
    exact hc
  · rw [List.append_assoc]
    exact hp

/-! ## The bit rate -/

theorem tdiv_tdiv (a : Int) (m n : Nat) : (a.tdiv m).tdiv n = a.tdiv (m * n : Nat) := by
  have hnat : ∀ k : Nat, ((k : Int).tdiv m).tdiv n = (k : Int).tdiv (m * n : Nat) := by
    intro k
    rw [← Int.ofNat_tdiv, ← Int.ofNat_tdiv, ← Int.ofNat_tdiv, Nat.div_div_eq_div_mul]
  rcases Int.eq_nat_or_neg a with ⟨k, rfl | rfl⟩
  · exact hnat k
  · rw [Int.neg_tdiv, Int.neg_tdiv, Int.neg_tdiv, hnat k]

theorem prescalerRank_fits (hz : Int) (left : Nat) (spiHz : Int) (rank : Nat) :
    let r := prescalerRank hz left spiHz rank
    rank ≤ r ∧ r ≤ rank + left ∧ (r < rank + left → spiHz.tdiv (2 ^ (r - rank) : Nat) ≤ hz) ∧
      ∀ j, rank + j < r → hz < spiHz.tdiv (2 ^ j : Nat) := by
  induction left generalizing spiHz rank with
  | zero => exact ⟨Nat.le_refl _, Nat.le_refl _, fun h => absurd h (Nat.lt_irrefl _), fun j h => by
      simp only [prescalerRank] at h
      omega⟩
  | succ left ih =>
    by_cases h : spiHz > hz
    · rw [prescalerRank, if_pos h]
      obtain ⟨h1, h2, h3, h4⟩ := ih (spiHz.tdiv 2) (rank + 1)
      generalize prescalerRank hz left (spiHz.tdiv 2) (rank + 1) = r at h1 h2 h3 h4
      refine ⟨by omega, by omega, fun hr => ?_, fun j hj => ?_⟩
      · have hlt := h3 (by omega)
        obtain ⟨m, rfl⟩ : ∃ m, r = rank + 1 + m := ⟨r - (rank + 1), by omega⟩
        rw [show rank + 1 + m - (rank + 1) = m by omega] at hlt
        rw [show rank + 1 + m - rank = m + 1 by omega, Nat.pow_succ, Nat.mul_comm, ← tdiv_tdiv]
        exact hlt
      · cases j with
        | zero => exact (Int.tdiv_one spiHz).symm ▸ h
        | succ j =>
          have hlt := h4 j (by omega)
          rw [Nat.pow_succ, Nat.mul_comm, ← tdiv_tdiv]
          exact hlt
    · rw [prescalerRank, if_neg h]
      refine ⟨Nat.le_refl _, by omega, fun _ => ?_, fun j hj => by omega⟩
      rw [Nat.sub_self, Nat.pow_zero]
      exact (Int.tdiv_one spiHz).symm ▸ Int.not_lt.mp h

/-- The bit rate is the fastest of the eight that does not exceed `hz`, or the slowest. -/
theorem rankFor_fits (hz : Int) (clock : UInt32) :
    rankFor hz clock ≤ 7 ∧
      (rankFor hz clock < 7 → clock.toInt32.toInt.tdiv (2 ^ (rankFor hz clock + 1) : Nat) ≤ hz) ∧
      ∀ r < rankFor hz clock, hz < clock.toInt32.toInt.tdiv (2 ^ (r + 1) : Nat) := by
  obtain ⟨-, h2, h3, h4⟩ := prescalerRank_fits hz 7 (clock.toInt32.toInt.tdiv 2) 0
  refine ⟨h2, fun h => ?_, fun r h => ?_⟩
  · rw [Nat.pow_succ, Nat.mul_comm, ← tdiv_tdiv]
    exact h3 h
  · rw [Nat.pow_succ, Nat.mul_comm, ← tdiv_tdiv]
    exact h4 r ((Nat.zero_add r).symm ▸ h)

/-- The 500 kHz of the drivers on a 72 MHz bus: the slowest rate, 281 kHz. -/
example : prescaler 500000 72000000 = 0x38 := by decide

/-! ## One unit -/

def formats : List Format := [⟨8, 0⟩, ⟨8, 1⟩, ⟨8, 2⟩, ⟨8, 3⟩, ⟨16, 0⟩, ⟨16, 1⟩, ⟨16, 2⟩, ⟨16, 3⟩]

theorem clocked_mem (f : Format) : clocked f ∈ formats := by
  obtain ⟨bits, mode⟩ := f
  have hm : (if mode < 3 then mode else 3) < 4 := by split <;> omega
  unfold clocked
  interval_cases (if mode < 3 then mode else 3) <;> by_cases hb : bits = 16 <;> simp [hb, formats]

theorem polarityPhase_clocked (mode : Nat) : polarityPhase (if mode < 3 then mode else 3) = polarityPhase mode := by
  match mode with
  | 0 => rfl
  | 1 => rfl
  | 2 => rfl
  | n + 3 => rw [if_neg (by omega)]; rfl

theorem initOf_clocked (f : Format) (br : Word) : initOf f br = initOf (clocked f) br := by
  have hb : (if f.bits = 16 then 16 else 8) = 16 ↔ f.bits = 16 := by split <;> simp_all
  unfold initOf clocked
  simp only [polarityPhase_clocked, hb]

theorem prescaler_mem (hz : Int) (clock : UInt32) : prescaler hz clock ∈ baudratePrescalerTable := by
  have hlt : rankFor hz clock < baudratePrescalerTable.length := Nat.lt_succ_of_le (rankFor_fits hz clock).1
  unfold prescaler
  rw [List.getD_eq_getElem _ _ hlt]
  exact List.getElem_mem hlt

/-- Programmed as `i`, the registers set the bus to `f`, and `spi_master_write` finds CR2 as it wants it. -/
def SpiInit.Sets (i : SpiInit) (f : Format) : Prop :=
  formatOf (i.cr1 ||| cr1Spe) i.cr2 = f ∧ (i.cr1 ||| cr1Spe) &&& cr1Spe ≠ 0 ∧
    i.cr2 &&& ~~~cr2Frxth ||| (if i.dataSize == datasize16Bit then rxfifoThresholdHf else rxfifoThresholdQf) = i.cr2

instance (i : SpiInit) (f : Format) : Decidable (i.Sets f) := by unfold SpiInit.Sets; infer_instance

theorem initOf_sets (f : Format) {br : Word} (hbr : br ∈ baudratePrescalerTable) : (initOf f br).Sets (clocked f) := by
  have hall : (formats.all fun g => baudratePrescalerTable.all fun br => decide ((initOf g br).Sets g)) = true := by
    decide +kernel
  rw [initOf_clocked]
  exact of_decide_eq_true (List.all_eq_true.mp (List.all_eq_true.mp hall _ (clocked_mem f)) br hbr)

/-- The bus belongs to the one object, which programmed the peripheral as it was told. -/
structure Ready (hw : Board) (d : Chip) : Prop where
  owner : d.owner = true
  fill : d.writeFill = 0xFF
  init : d.init = initOf ⟨d.bits, d.mode⟩ (prescaler d.hz (lastClock d.log))
  programmed : Programmed hw d

/-- From `d` nothing but the history changed, by the units `us`, all of them read back. -/
structure Sent (hw : Board) (d d' : Chip) (us : List Wire) : Prop where
  same : d' = { d with log := d'.log }
  wire : hw.wire d'.log = us ++ hw.wire d.log
  low : low d'.log = low d.log
  value : ∀ r, hw.value d'.log r = hw.value d.log r
  clock : lastClock d'.log = lastClock d.log
  idle : unread d'.log = 0
  orderly : Always (Orderly hw.start) d'.log

/-- A run that waits forever: then the hardware is not prompt. -/
def Stuck (hw : Board) (fuel : Nat) (x : Exit) (d : Chip) : Prop :=
  x = .stuck ∧ Always (Orderly hw.start) d.log ∧ ∀ K ≤ fuel, ¬ Prompt hw K

theorem Ready.sent {d' : Chip} {us : List Wire} (h : Ready hw d) (hs : Sent hw d d' us) : Ready hw d' := by
  obtain ⟨bits, mode, hz, owner, fill, init, mem, log⟩ := d
  obtain ⟨bits', mode', hz', owner', fill', init', mem', log'⟩ := d'
  have hsame := hs.same
  simp only [Chip.mk.injEq, and_true] at hsame
  obtain ⟨rfl, rfl, rfl, rfl, rfl, rfl, rfl⟩ := hsame
  exact ⟨h.owner, h.fill, hs.clock ▸ h.init, (hs.value .cr1).trans h.programmed.cr1,
    (hs.value .cr2).trans h.programmed.cr2⟩

theorem Sent.trans {d' d'' : Chip} {us us' : List Wire} (h : Sent hw d d' us) (h' : Sent hw d' d'' us') :
    Sent hw d d'' (us' ++ us) where
  same := by rw [h'.same, h.same]
  wire := by rw [h'.wire, h.wire, List.append_assoc]
  low := h'.low.trans h.low
  value r := (h'.value r).trans (h.value r)
  clock := h'.clock.trans h.clock
  idle := h'.idle
  orderly := h'.orderly

theorem polled_same (hw : Board) (l : List Access) (m : Nat) :
    low (polled hw l m) = low l ∧ unread (polled hw l m) = unread l ∧ hw.wire (polled hw l m) = hw.wire l ∧
      (∀ r, hw.value (polled hw l m) r = hw.value l r) ∧ lastClock (polled hw l m) = lastClock l := by
  obtain ⟨n, hn, hc, hv, hl⟩ := polled_control hw.start hw l m
  obtain ⟨h1, h2, h3⟩ := control_append hw.start (l := l) hc
  rw [hn]
  exact ⟨h1, h2, h3, hv, hl⟩

theorem always_polled (ho : Always (Orderly hw.start) l) (m : Nat) : Always (Orderly hw.start) (polled hw l m) := by
  induction m with
  | zero => exact ho
  | succ m ih => exact always_cons.mpr ⟨trivial, ih⟩

theorem modifyReg_run (r : SpiReg) (clear set : Word) :
    modifyReg r clear set hw d =
      .ok () { d with
        log := .write r (hw.value d.log r &&& ~~~clear ||| set) :: .read r (hw.value d.log r) :: d.log } := rfl

/-- A wait for a flag that prompt hardware sets. -/
theorem awaits_wp {flag : Word} (ho : Always (Orderly hw.start) d.log)
    (hset : ∀ K, Prompt hw K → ∃ m < K, hw.status (polled hw d.log m) &&& flag ≠ 0) :
    wp (waitFlag fuel flag)
      (fun _ d' => ∃ m, d' = { d with log := polled hw d.log (m + 1) } ∧ hw.status (polled hw d.log m) &&& flag ≠ 0)
      (Stuck hw fuel) hw d := by
  refine wp_mono (waitFlag_wp flag) (fun _ _ h => h) ?_
  rintro _ _ ⟨rfl, rfl, hno⟩
  refine ⟨rfl, always_polled ho fuel, fun K hK hp => ?_⟩
  obtain ⟨j, hj, hyes⟩ := hset K hp
  exact hyes (hno j (hj.trans_le hK))

/-- The unit under way comes back, and is read. -/
theorem receive_wp (wide : Bool) {s : List Select} {f : Format} {v : UInt16} {us : List Wire}
    (hw3 : hw.wire d.log = .unit s f v :: us) (hu : unread d.log = 1) (hspe : hw.value d.log .cr1 &&& cr1Spe ≠ 0)
    (ho : Always (Orderly hw.start) d.log) :
    wp (do waitFlag fuel srRxne; return (← receiveData wide).toUInt8)
      (fun b d' => Sent hw d d' [] ∧ b = (hw.shift (hw.wire d'.log)).toUInt8) (Stuck hw fuel) hw d := by
  have hset : ∀ K, Prompt hw K → ∃ m < K, hw.status (polled hw d.log m) &&& srRxne ≠ 0 := fun K hp =>
    hp.rxne d.log hspe (by omega)
  refine wp_bind.mpr (wp_mono (awaits_wp ho hset) ?_ fun _ _ he => he)
  rintro _ _ ⟨k, rfl, hrxne⟩
  obtain ⟨hlow, hu', hwire, hv, hc⟩ := polled_same hw d.log (k + 1)
  have hdata : hw.data (polled hw d.log (k + 1)) = hw.shift (hw.wire (polled hw d.log (k + 1))) := by
    unfold Board.data
    rw [hu', hu, hwire, hw3]
    rfl
  refine wp_bind.mpr (wp_of_ok rfl (wp_pure.mpr ⟨⟨rfl, hwire, hlow, hv, hc, ?_, ?_⟩, congrArg UInt16.toUInt8 hdata⟩))
  · show unread (polled hw d.log (k + 1)) - 1 = 0
    rw [hu', hu]
  · exact always_cons.mpr ⟨⟨⟨_, _, rfl, hrxne⟩, hu'.trans hu⟩, always_polled ho (k + 1)⟩

/-- One unit crosses the bus, and what came back with it is read. -/
theorem spiMasterWrite_wp (h : Ready hw d) (hu : unread d.log = 0) (ho : Always (Orderly hw.start) d.log)
    (out : UInt8) :
    wp (spiMasterWrite fuel out)
      (fun b d' => Sent hw d d' [.unit (low d.log) (clocked ⟨d.bits, d.mode⟩) out.toUInt16] ∧
        b = (hw.shift (hw.wire d'.log)).toUInt8)
      (Stuck hw fuel) hw d := by
  obtain ⟨hf, hspe, hth⟩ := initOf_sets ⟨d.bits, d.mode⟩ (prescaler_mem d.hz (lastClock d.log))
  rw [← h.init, ← h.programmed.cr1, ← h.programmed.cr2] at hf
  rw [← h.init, ← h.programmed.cr1] at hspe
  rw [← h.init, ← h.programmed.cr2] at hth
  unfold spiMasterWrite
  refine wp_bind.mpr (wp_of_ok rfl (wp_bind.mpr (wp_of_ok (modifyReg_run _ _ _) ?_)))
  rw [hth]
  generalize (d.init.dataSize == datasize16Bit) = wide
  -- CR2 was written with what it held
  let l1 := .write .cr2 (hw.value d.log .cr2) :: .read .cr2 (hw.value d.log .cr2) :: d.log
  have hv1 : ∀ r, hw.value l1 r = hw.value d.log r := by
    intro r
    cases r with
    | cr1 => rfl
    | cr2 => rfl
  have ho1 : Always (Orderly hw.start) l1 := always_cons.mpr ⟨hu, always_cons.mpr ⟨trivial, ho⟩⟩
  have hset : ∀ K, Prompt hw K → ∃ m < K, hw.status (polled hw l1 m) &&& srTxe ≠ 0 := fun K hp =>
    hp.txe l1 (by rw [hv1]; exact hspe)
  refine wp_bind.mpr (wp_mono (awaits_wp (d := { d with log := l1 }) ho1 hset) ?_ fun _ _ he => he)
  rintro _ _ ⟨m, rfl, htxe⟩
  obtain ⟨hlow2, hu2, hw2, hv2, hc2⟩ := polled_same hw l1 (m + 1)
  -- the unit goes out
  let l3 := .transmit wide out.toUInt16 :: polled hw l1 (m + 1)
  have hspe3 : hw.value l3 .cr1 &&& cr1Spe ≠ 0 := by
    show hw.value (polled hw l1 (m + 1)) .cr1 &&& cr1Spe ≠ 0
    rw [hv2, hv1]
    exact hspe
  have ho3 : Always (Orderly hw.start) l3 :=
    always_cons.mpr ⟨⟨⟨_, _, rfl, htxe⟩, hu2.trans hu, hspe3⟩, always_polled ho1 (m + 1)⟩
  have hw3 : hw.wire l3 = .unit (low d.log) (clocked ⟨d.bits, d.mode⟩) out.toUInt16 :: hw.wire d.log := by
    show Wire.unit (low (polled hw l1 (m + 1))) (formatOf (hw.value (polled hw l1 (m + 1)) .cr1)
      (hw.value (polled hw l1 (m + 1)) .cr2)) out.toUInt16 :: hw.wire (polled hw l1 (m + 1)) = _
    rw [hlow2, hv2, hv2, hv1, hv1, hf, hw2]
    rfl
  have hu3 : unread l3 = 1 := by
    show unread (polled hw l1 (m + 1)) + 1 = 1
    rw [hu2]
    exact congrArg (· + 1) hu
  refine wp_bind.mpr (wp_of_ok rfl (wp_mono (receive_wp wide (d := { d with log := l3 }) hw3 hu3 hspe3 ho3) ?_
    fun _ _ he => he))
  rintro b d' ⟨hs, hb⟩
  refine ⟨⟨hs.same, hs.wire.trans hw3, hs.low.trans hlow2, fun r => ?_, hs.clock.trans hc2, hs.idle, hs.orderly⟩, hb⟩
  exact (hs.value r).trans ((hv2 r).trans (hv1 r))

/-! ## Transfers -/

/-- What comes back with unit `i` of a transfer. -/
def Board.back (hw : Board) (w : List Wire) (f : Frame) (i : Nat) : UInt8 := (hw.shift (units f (i + 1) ++ w)).toUInt8

/-- The frame a transfer from `d` is. -/
def Chip.frame (d : Chip) (tx : List UInt8) (rxLength : Nat) : Frame :=
  ⟨⟨d.bits, d.mode⟩, low d.log, tx ++ List.replicate (rxLength - tx.length) 0xFF⟩

theorem Sent.refl (hu : unread d.log = 0) (ho : Always (Orderly hw.start) d.log) : Sent hw d d [] :=
  ⟨rfl, rfl, rfl, fun _ => rfl, rfl, hu, ho⟩

/-- The transfer after `n` of its units. -/
theorem blockWrite_loop (h : Ready hw d) (hu : unread d.log = 0) (ho : Always (Orderly hw.start) d.log)
    (tx : List UInt8)
    (rxLength : Nat) {n : Nat} (hn : n ≤ (d.frame tx rxLength).mosi.length) :
    wp ((List.range n).foldlM (fun rx i => do
        let out := if i < tx.length then tx.getD i 0 else 0xFF
        let v ← spiMasterWrite fuel out
        return if i < rxLength then rx ++ [v] else rx) [])
      (fun rx d' => Sent hw d d' (units (d.frame tx rxLength) n) ∧
        rx = (List.range (min n rxLength)).map (hw.back (hw.wire d.log) (d.frame tx rxLength)))
      (Stuck hw fuel) hw d := by
  induction n with
  | zero =>
    rw [Nat.zero_min]
    exact wp_pure.mpr ⟨Sent.refl hu ho, rfl⟩
  | succ n ih =>
    rw [List.range_succ, List.foldlM_append]
    refine wp_bind.mpr (wp_mono (ih (Nat.le_of_succ_le hn)) ?_ fun _ _ he => he)
    rintro rx d1 ⟨hs, rfl⟩
    rw [List.foldlM_cons]
    have hlen : n < tx.length ∨ n < rxLength := by
      simp only [Chip.frame, List.length_append, List.length_replicate] at hn
      omega
    have hout : (d.frame tx rxLength).mosi[n]? = some (if n < tx.length then tx.getD n 0 else 0xFF) := by
      unfold Chip.frame
      by_cases ht : n < tx.length
      · rw [if_pos ht, List.getElem?_append_left ht, List.getElem?_eq_getElem ht, List.getD_eq_getElem _ _ ht]
      · rw [if_neg ht, List.getElem?_append_right (Nat.le_of_not_lt ht), List.getElem?_replicate, if_pos (by omega)]
    have hs1 : d1.bits = d.bits ∧ d1.mode = d.mode := by rw [hs.same]; exact ⟨rfl, rfl⟩
    refine wp_bind.mpr (wp_bind.mpr (wp_mono (spiMasterWrite_wp (h.sent hs) hs.idle hs.orderly _) ?_ fun _ _ he => he))
    rintro v d2 ⟨hs2, rfl⟩
    refine wp_pure.mpr (wp_pure.mpr ?_)
    rw [hs.low, hs1.1, hs1.2] at hs2
    have hall : Sent hw d d2 (units (d.frame tx rxLength) (n + 1)) := by
      rw [units_succ hout]
      exact hs.trans hs2
    refine ⟨hall, ?_⟩
    by_cases hr : n < rxLength
    · rw [if_pos hr, Nat.min_eq_left hr, Nat.min_eq_left (Nat.le_of_lt hr), List.range_succ, List.map_append,
        List.map_singleton, hall.wire]
      rfl
    · rw [if_neg hr, Nat.min_eq_right (Nat.le_of_not_lt hr), Nat.min_eq_right (by omega)]

theorem write_wp (h : Ready hw d) (hu : unread d.log = 0) (ho : Always (Orderly hw.start) d.log) (tx : List UInt8)
    (rxLength : Nat) :
    wp (SPI.write fuel tx rxLength)
      (fun rx d' => Sent hw d d' (units (d.frame tx rxLength) (d.frame tx rxLength).mosi.length) ∧
        rx = (List.range rxLength).map (hw.back (hw.wire d.log) (d.frame tx rxLength)))
      (Stuck hw fuel) hw d := by
  have hacq : acquire hw d = .ok () d := by
    unfold acquire
    refine (run_bind_ok (show getChip hw d = .ok d d from rfl) _).trans ?_
    rw [if_neg (by rw [h.owner]; decide)]
    rfl
  have hlen : (d.frame tx rxLength).mosi.length = if rxLength < tx.length then tx.length else rxLength := by
    simp only [Chip.frame, List.length_append, List.length_replicate]
    split <;> omega
  unfold SPI.write
  refine wp_bind.mpr (wp_of_ok hacq (wp_bind.mpr (wp_of_ok (show getChip hw d = .ok d d from rfl) ?_)))
  rw [h.fill]
  unfold spiMasterBlockWrite
  rw [← hlen]
  refine wp_mono (blockWrite_loop h hu ho tx rxLength (Nat.le_refl _)) ?_ fun _ _ he => he
  rintro rx d' ⟨hs, rfl⟩
  refine ⟨hs, ?_⟩
  rw [Nat.min_eq_right]
  rw [hlen]
  split <;> omega

/-! ## Operation by operation -/

/-- A world between two operations and the chip it is on. -/
structure Related (hw : Board) (w : World) (d : Chip) : Prop where
  mem : d.mem = w.mem
  format : (⟨d.bits, d.mode⟩ : Format) = w.format
  low : low d.log = []
  unselected : w.low = []
  wire : hw.wire d.log = busWire w.log
  ready : Ready hw d
  idle : unread d.log = 0
  orderly : Always (Orderly hw.start) d.log

variable {w : World}

theorem Ready.quiet {a : Access} (h : Ready hw d) (hv : ∀ r, hw.value (a :: d.log) r = hw.value d.log r)
    (hc : lastClock (a :: d.log) = lastClock d.log) (m : Mem) : Ready hw { d with mem := m, log := a :: d.log } :=
  ⟨h.owner, h.fill, (congrArg (fun c => initOf ⟨d.bits, d.mode⟩ (prescaler d.hz c)) hc).symm ▸ h.init,
    (hv .cr1).trans h.programmed.cr1, (hv .cr2).trans h.programmed.cr2⟩

theorem Related.other (h : Related hw w d) {e : Event} (he : busWire (e :: w.log) = .other e :: busWire w.log) :
    Related hw (w.push e) { d with log := .other e :: d.log } where
  mem := h.mem
  format := h.format
  low := h.low
  unselected := h.unselected
  wire := by
    show Wire.other e :: hw.wire d.log = _
    rw [h.wire]
    exact he.symm
  ready := h.ready.quiet (fun _ => rfl) rfl d.mem
  idle := h.idle
  orderly := always_cons.mpr ⟨h.idle, h.orderly⟩

/-- Programmed again, with nothing but accesses of registers added. -/
theorem Related.control {d' : Chip} {n : List Access} (h : Related hw w d) (hr : Ready hw d') (hn : ∀ a ∈ n, a.Control)
    (hlog : d'.log = n ++ d.log) (hmem : d'.mem = d.mem) {f : Format} (hf : (⟨d'.bits, d'.mode⟩ : Format) = f) :
    Related hw { w with format := f } d' := by
  obtain ⟨h1, h2, h3⟩ := control_append hw.start (l := d.log) hn
  refine ⟨hmem.trans h.mem, hf, ?_, h.unselected, ?_, hr, ?_, ?_⟩
  · rw [hlog, h1]; exact h.low
  · rw [hlog]; exact h3.trans h.wire
  · rw [hlog, h2]; exact h.idle
  · rw [hlog]; exact always_control hn h.idle h.orderly

theorem format_owned (h : d.owner = true) (bits mode : Nat) :
    SPI.format bits mode hw d = spiFormat bits mode hw { d with bits := bits, mode := mode } := by
  show (if d.owner then spiFormat bits mode else acquire) hw _ = _
  rw [if_pos h]

theorem frequency_owned (h : d.owner = true) (hz : Int) :
    SPI.frequency hz hw d = spiFrequency hz hw { d with hz := hz } := by
  show (if d.owner then spiFrequency hz else acquire) hw _ = _
  rw [if_pos h]

theorem format_run (h : Related hw w d) (bits mode : Nat) :
    ∃ d', SPI.format bits mode hw d = .ok () d' ∧ Related hw { w with format := ⟨bits, mode⟩ } d' ∧ d'.hz = d.hz := by
  obtain ⟨n, hr, hn, hc, hp⟩ := spiFormat_run hw (d := { d with bits := bits, mode := mode }) h.ready.init bits mode
  have hinit := congrArg (fun c => initOf ⟨bits, mode⟩ (prescaler d.hz c)) hc.symm
  have hready : Ready hw { d with
      bits := bits, mode := mode, init := initOf ⟨bits, mode⟩ (prescaler d.hz (lastClock d.log)), log := n ++ d.log } :=
    ⟨h.ready.owner, h.ready.fill, hinit, hp⟩
  exact ⟨_, (format_owned h.ready.owner bits mode).trans hr, h.control hready hn rfl rfl rfl, rfl⟩

theorem frequency_run (h : Related hw w d) (hz : Int) :
    ∃ d', SPI.frequency hz hw d = .ok () d' ∧ Related hw w d' ∧ d'.hz = hz := by
  obtain ⟨n, hr, hn, hc, hp⟩ := spiFrequency_run hw (d := { d with hz := hz }) h.ready.init hz
  have hinit := congrArg (fun c => initOf ⟨d.bits, d.mode⟩ (prescaler hz c)) hc.symm
  have hready : Ready hw { d with
      hz := hz, init := initOf ⟨d.bits, d.mode⟩ (prescaler hz (hw.pclk2 d.log)), log := n ++ d.log } :=
    ⟨h.ready.owner, h.ready.fill, hinit, hp⟩
  exact ⟨_, (frequency_owned h.ready.owner hz).trans hr, h.control hready hn rfl rfl h.format, rfl⟩

/-- A chip selected, a transfer, and the chip deselected. -/
theorem transact_related (h : Related hw w d) (s : Select) (tx : List UInt8) (rxLength : Nat) :
    wp ((Op.transact s tx rxLength).onChip fuel)
      (fun rx d' => (∃ w', Graviton.transact s tx rxLength hw.env w = .ok rx w' ∧ Related hw w' d') ∧ d'.hz = d.hz)
      (Stuck hw fuel) hw d := by
  let d1 : Chip := { d with log := .select s false :: d.log }
  have hlow1 : low d1.log = [s] := by
    show (if s ∈ low d.log then low d.log else s :: low d.log) = [s]
    rw [h.low]
    rfl
  have hframe : d1.frame tx rxLength = w.frameTo s tx rxLength := by
    show (⟨⟨d.bits, d.mode⟩, low d1.log, _⟩ : Frame) = ⟨w.format, [s], _⟩
    rw [h.format, hlow1]
  have hwire1 : hw.wire d1.log = edges (w.frameTo s tx rxLength) false ++ busWire w.log :=
    congrArg (Wire.edge s false :: ·) h.wire
  have hr1 : Ready hw d1 := h.ready.quiet (fun _ => rfl) rfl d.mem
  have ho1 : Always (Orderly hw.start) d1.log := always_cons.mpr ⟨h.idle, h.orderly⟩
  refine wp_bind.mpr (wp_of_ok (show access (.select s false) hw d = .ok () d1 from rfl) ?_)
  refine wp_bind.mpr (wp_mono (write_wp hr1 h.idle ho1 tx rxLength) ?_ fun _ _ he => he)
  rintro rx d2 ⟨hs, rfl⟩
  rw [hframe] at hs ⊢
  have hsame : d2.mem = d.mem ∧ d2.bits = d.bits ∧ d2.mode = d.mode ∧ d2.hz = d.hz := by
    rw [hs.same]
    exact ⟨rfl, rfl, rfl, rfl⟩
  refine wp_bind.mpr (wp_of_ok rfl (wp_pure.mpr ⟨⟨w.push (.frame (w.frameTo s tx rxLength)
    (hw.env.reply w.log (w.frameTo s tx rxLength) rxLength)), ?_, ?_⟩, hsame.2.2.2⟩))
  · rw [transact_run s tx rxLength hw.env h.unselected, hwire1]
    rfl
  refine ⟨hsame.1.trans h.mem, ?_, ?_, h.unselected, ?_, (hr1.sent hs).quiet (fun _ => rfl) rfl d2.mem, hs.idle,
    always_cons.mpr ⟨hs.idle, hs.orderly⟩⟩
  · show (⟨d2.bits, d2.mode⟩ : Format) = w.format
    rw [hsame.2.1, hsame.2.2.1]
    exact h.format
  · show (low d2.log).erase s = []
    rw [hs.low, hlow1]
    simp
  · show Wire.edge s true :: hw.wire d2.log = _
    rw [hs.wire, hwire1]
    rfl

/-- The clock frequency asked for after an operation, `hz` before it. -/
def Op.asks (hz : Int) : Op → Int
  | .frequency hz' => hz'
  | _ => hz

/-- Each operation of the firmware does on the chip what it does on the bus, and the `SPI`
    object knows the frequency asked for last. -/
theorem op_wp (h : Related hw w d) (o : Op) :
    wp (o.onChip fuel)
      (fun a d' => (∃ w', o.onBus hw.env w = .ok a w' ∧ Related hw w' d') ∧ d'.hz = o.asks d.hz)
      (fun x d' => Stuck hw fuel x d' ∨
        (∃ e w', o.onBus hw.env w = .error e w' ∧ x = .stop e ∧ Related hw w' d') ∧ d'.hz = o.asks d.hz) hw d := by
  cases o with
  | format bits mode =>
    obtain ⟨d', hr, h', hz⟩ := format_run h bits mode
    exact wp_of_ok hr ⟨⟨_, rfl, h'⟩, hz⟩
  | frequency hz =>
    obtain ⟨d', hr, h', hz'⟩ := frequency_run h hz
    exact wp_of_ok hr ⟨⟨w, rfl, h'⟩, hz'⟩
  | transact s tx rxLength =>
    exact wp_mono (transact_related h s tx rxLength) (fun _ _ hr => hr) fun _ _ he => Or.inl he
  | pin p v => exact wp_of_ok rfl ⟨⟨_, rfl, h.other rfl⟩, rfl⟩
  | printf port text args => exact wp_of_ok rfl ⟨⟨_, rfl, h.other rfl⟩, rfl⟩
  | osc external =>
    cases external with
    | true =>
      refine wp_of_ok rfl ⟨⟨w.push (.osc true (hw.extOsc (hw.wire d.log))), ?_, h.other rfl⟩, rfl⟩
      rw [h.wire]
      rfl
    | false =>
      refine wp_of_ok rfl ⟨⟨w.push (.osc false (hw.intOsc (hw.wire d.log))), ?_, h.other rfl⟩, rfl⟩
      rw [h.wire]
      rfl
  | readable =>
    refine wp_of_ok rfl ⟨⟨w.push (.readable (hw.readable (hw.wire d.log))), ?_, h.other rfl⟩, rfl⟩
    rw [h.wire]
    rfl
  | getc =>
    refine wp_of_ok rfl ⟨⟨w.push (.getc (hw.getc (hw.wire d.log))), ?_, h.other rfl⟩, rfl⟩
    rw [h.wire]
    rfl
  | devId => exact wp_of_ok rfl ⟨⟨w, rfl, h⟩, rfl⟩
  | lm5331 mv => exact wp_of_ok rfl ⟨⟨w, rfl, h⟩, rfl⟩
  | getMem => exact wp_of_ok rfl ⟨⟨w, congrArg (fun m => EStateM.Result.ok m w) h.mem.symm, h⟩, rfl⟩
  | modifyMem f =>
    exact wp_of_ok rfl ⟨⟨_, rfl, congrArg f h.mem, h.format, h.low, h.unselected, h.wire,
      ⟨h.ready.owner, h.ready.fill, h.ready.init, ⟨h.ready.programmed.cr1, h.ready.programmed.cr2⟩⟩, h.idle, h.orderly⟩,
      rfl⟩
  | stop e => exact wp_of_error rfl (Or.inr ⟨⟨e, w, rfl, rfl, h⟩, rfl⟩)

theorem op_refines (hw : Board) (fuel : Nat) (o : Op) :
    Refines (Related hw) (fun e x => x = Exit.stop e) (Stuck hw fuel) hw.env o.onBus hw (o.onChip fuel) :=
  fun _ _ h => wp_mono (op_wp h o) (fun _ _ hr => hr.1) fun _ _ he => he.imp_right And.left

end Graviton.Spi
