/-
  Graviton.SpiPins — what the chips hear of `main` on the peripheral.

  On the wires one chip is selected at a time, its units come in its format, and nothing else
  happens until it is deselected (`main_wire`). So each chip hears the transfers that the log
  of the bus has with it (`main_heard`) and the AMC7891s the register writes (`main_writes`):
  what holds of the writes of every run holds at the pins (`main_gates`).
-/
import Graviton.GateSafety
import Graviton.Programming
import Graviton.SpiMain

namespace Graviton.Spi

open Effects History

/-! ## On the wires -/

/-- The formats a chip is addressed in; the DAC3484 is in two. -/
def formatsFor : Select → List Format
  | .afe _ => [⟨8, 1⟩]
  | .dac3484 => Dac3484.formats
  | _ => [⟨8, 0⟩]

/-- The wires well framed: one chip is selected at a time, its units come in its formats, and
    nothing else happens until it is deselected. The state is the chip selected. -/
def framing : Monitor (Option Select) Wire where
  start := none
  step
    | none, .edge s false => some (some s)
    | none, .other _ => some none
    | some s, .unit low format _ => if low = [s] ∧ format ∈ formatsFor s then some (some s) else none
    | some s, .edge s' true => if s' = s then some none else none
    | _, _ => none

/-- One chip is selected, and the format is one of its own. -/
def proper : List Select → Format → Bool
  | [s], format => format ∈ formatsFor s
  | _, _ => false

def properEvent : Event → Bool
  | .frame f _ => proper f.low f.format
  | _ => true

/-- The peripheral clocks the formats of a chip as they are asked for. -/
theorem clocked_formatsFor {s : Select} {f : Format} (h : f ∈ formatsFor s) : clocked f = f := by
  have hall : ∀ f ∈ [(⟨8, 0⟩ : Format), ⟨8, 1⟩], clocked f = f := by decide
  refine hall f ?_
  cases s with
  | afe => exact List.mem_cons_of_mem _ h
  | dac3484 => exact h
  | _ => exact List.mem_cons.mpr (Or.inl (List.mem_singleton.mp h))

theorem proper_cases {low : List Select} {f : Format} (h : proper low f = true) :
    ∃ s, low = [s] ∧ clocked f ∈ formatsFor s := by
  match low with
  | [] => cases h
  | [s] =>
    have hf : f ∈ formatsFor s := of_decide_eq_true h
    exact ⟨s, rfl, (clocked_formatsFor hf).symm ▸ hf⟩
  | _ :: _ :: _ => cases h

/-- A transfer from deselected to deselected. -/
theorem frame_framed {l : List Wire} {f : Frame} (h : framing.state l = some none) (hf : proper f.low f.format = true) :
    framing.state (edges f true ++ (units f f.mosi.length ++ (edges f false ++ l))) = some none := by
  obtain ⟨s, hlow, hfmt⟩ := proper_cases hf
  have hedge : ∀ v, edges f v = [.edge s v] := by
    intro v
    unfold edges
    rw [hlow]
    rfl
  have hdown : framing.state (.edge s false :: l) = some (some s) := Monitor.state_cons h
  have hunits : framing.state (units f f.mosi.length ++ .edge s false :: l) = some (some s) := by
    refine Monitor.state_ignored hdown fun u hu => ?_
    obtain ⟨b, _, rfl⟩ := List.mem_map.mp (List.mem_reverse.mp hu)
    exact if_pos ⟨hlow, hfmt⟩
  rw [hedge, hedge]
  exact (Monitor.state_cons hunits).trans (if_pos rfl)

theorem busWire_framed {l : List Event} (h : ∀ e ∈ l, properEvent e = true) :
    framing.state (busWire l) = some none := by
  induction l with
  | nil => rfl
  | cons e l ih =>
    obtain ⟨he, hl⟩ := List.forall_mem_cons.mp h
    cases e with
    | frame f rx => exact frame_framed (ih hl) he
    | _ => exact Monitor.state_cons (ih hl)

theorem proper_served : Stays Event.Served fun l => ∀ e ∈ l, properEvent e = true := by
  intro e l he h
  refine List.forall_mem_cons.mpr ⟨?_, h⟩
  cases he with
  | steady hs =>
    cases hs with
    | look hl =>
      cases hl with
      | dacRead x y rx hf => exact decide_eq_true hf
      | _ => rfl
    | _ => rfl
  | _ => rfl

theorem proper_rails : Stays Event.Rails fun l => ∀ e ∈ l, properEvent e = true := by
  refine proper_served.mono fun e he => ?_
  rcases he with he | rfl
  · exact look_served .pc e he
  · exact .steady (.write _ (kept_gpio _ _))

theorem mainRun_proper (env : Env) (n : Nat) : ∀ e ∈ (final (mainRun n env reset)).log, properEvent e = true := by
  have h0 : ∀ e ∈ busTestWorld.log, properEvent e = true := by decide +kernel
  have hprog : ∀ e ∈ programming, properEvent e = true := by decide +kernel
  rcases mainRun_keeps proper_served h0 proper_rails
    (fun l h => List.forall_mem_append.mpr ⟨fun e he => hprog e (List.mem_reverse.mp he), h⟩) env n with h | h
  · exact h
  · rw [h]
    decide

/-- Whatever `main` sends is well framed, and no chip is left selected. -/
theorem main_wire (n : Nat) {hw : Board} {K fuel : Nat} (hp : Prompt hw K) (hk : K ≤ fuel)
    {c : Client Op Op.Answer LoopVars} (hc : c.run Op.onBus = mainRun n) :
    framing.state (hw.wire (final ((SPI.construct >>= fun _ => c.run (Op.onChip fuel)) hw unbooted)).log) = some none := by
  rw [(client_final hp hk hc).wire]
  exact busWire_framed (mainRun_proper hw.env n)

theorem main_wire_ready : ∃ c : Client Op Op.Answer LoopVars, c.run Op.onBus = mainRun 32 ∧
    framing.state (readyBoard.wire (final ((SPI.construct >>= fun _ => c.run (Op.onChip 1)) readyBoard unbooted)).log) =
      some none := by
  obtain ⟨c, hc⟩ := operates_mainRun 32
  exact ⟨c, hc, main_wire 32 readyBoard_prompt le_rfl hc⟩

/-! ## What a chip hears -/

/-- The units of a transfer, each in the format it was clocked in. -/
abbrev Transfer := List (Format × UInt16)

/-- The transfers chip `s` has heard, each from one fall of its select to the next rise, the
    newest first. The wires are read backwards: `cur` is what was met of a transfer so far. -/
def heard (s : Select) : Option Transfer → List Wire → List Transfer
  | _, [] => []
  | cur, .edge s' v :: l =>
    if s' ≠ s then heard s cur l else if v then heard s (some []) l else cur.toList ++ heard s none l
  | cur, .unit _ format v :: l => heard s (cur.map ((format, v) :: ·)) l
  | cur, .other _ :: l => heard s cur l

/-- The transfer with chip `s` that an event of the bus is. -/
def transferWith (s : Select) : Event → Option Transfer
  | .frame f _ => if f.low = [s] then some (f.mosi.map fun b => (clocked f.format, b.toUInt16)) else none
  | _ => none

theorem heard_units (s : Select) (cur : Option Transfer) (low : List Select) (format : Format) (bytes : List UInt8)
    (l : List Wire) :
    heard s cur ((bytes.map fun b => Wire.unit low format b.toUInt16).reverse ++ l) =
      heard s (cur.map ((bytes.map fun b => (format, b.toUInt16)) ++ ·)) l := by
  induction bytes generalizing l with
  | nil => cases cur <;> rfl
  | cons b bytes ih =>
    rw [List.map_cons, List.reverse_cons, List.append_assoc, ih]
    cases cur <;> rfl

theorem heard_frame (s : Select) {f : Frame} (hf : proper f.low f.format = true) (rx : List UInt8) (l : List Wire) :
    heard s none (edges f true ++ (units f f.mosi.length ++ (edges f false ++ l))) =
      (transferWith s (.frame f rx)).toList ++ heard s none l := by
  obtain ⟨s', hlow, _⟩ := proper_cases hf
  have hedge : ∀ v, edges f v = [.edge s' v] := by
    intro v
    unfold edges
    rw [hlow]
    rfl
  unfold units transferWith
  rw [hedge, hedge, List.take_length]
  by_cases hs : s' = s
  · subst hs
    simp [heard, heard_units, hlow]
  · simp [heard, heard_units, hlow, hs]

theorem heard_busWire (s : Select) {l : List Event} (h : ∀ e ∈ l, properEvent e = true) :
    heard s none (busWire l) = l.filterMap (transferWith s) := by
  induction l with
  | nil => rfl
  | cons e l ih =>
    obtain ⟨he, hl⟩ := List.forall_mem_cons.mp h
    cases e with
    | frame f rx =>
      refine (heard_frame s he rx (busWire l)).trans ?_
      rw [ih hl, List.filterMap_cons]
      cases transferWith s (.frame f rx) <;> rfl
    | _ => exact ih hl

/-- Every chip hears the transfers that `main` on the bus has with it, unit by unit. -/
theorem main_heard (n : Nat) {hw : Board} {K fuel : Nat} (hp : Prompt hw K) (hk : K ≤ fuel)
    {c : Client Op Op.Answer LoopVars} (hc : c.run Op.onBus = mainRun n) (s : Select) :
    heard s none (hw.wire (final ((SPI.construct >>= fun _ => c.run (Op.onChip fuel)) hw unbooted)).log) =
      (final (mainRun n hw.env reset)).log.filterMap (transferWith s) := by
  rw [(client_final hp hk hc).wire]
  exact heard_busWire s (mainRun_proper hw.env n)

theorem main_heard_ready : ∃ c : Client Op Op.Answer LoopVars, c.run Op.onBus = mainRun 32 ∧ ∀ s,
    heard s none (readyBoard.wire (final ((SPI.construct >>= fun _ => c.run (Op.onChip 1)) readyBoard unbooted)).log) =
      (final (mainRun 32 readyBoard.env reset)).log.filterMap (transferWith s) := by
  obtain ⟨c, hc⟩ := operates_mainRun 32
  exact ⟨c, hc, main_heard 32 readyBoard_prompt le_rfl hc⟩

/-- The register write a transfer is to an AMC7891, as the frame of it is on the bus. -/
def Transfer.write (c : Afe) : Transfer → Option Write
  | [(f1, addr), (f2, hi), (f3, lo)] =>
    if (f1 = ⟨8, 1⟩ ∧ f2 = ⟨8, 1⟩ ∧ f3 = ⟨8, 1⟩) ∧ addr.toUInt8 < 0x80 then
      some ((c, addr.toUInt8), word hi.toUInt8 lo.toUInt8)
    else none
  | _ => none

theorem transfer_write (c : Afe) {e : Event} (he : properEvent e = true) :
    (transferWith (.afe c) e).bind (Transfer.write c) = e.write.filter fun p => p.1.1 = c := by
  cases e with
  | frame f rx =>
    obtain ⟨format, low, mosi⟩ := f
    obtain ⟨s, hlow, -⟩ := proper_cases he
    obtain rfl : low = [s] := hlow
    cases s with
    | afe d =>
      obtain rfl : format = ⟨8, 1⟩ := List.mem_singleton.mp (of_decide_eq_true he)
      rcases mosi with _ | ⟨addr, _ | ⟨hi, _ | ⟨lo, _ | ⟨x, mosi⟩⟩⟩⟩
      case cons.cons.cons.nil =>
        by_cases hd : d = c <;> by_cases ha : addr < 0x80 <;>
          simp [transferWith, Transfer.write, Event.write, Frame.write, clocked, Option.filter, hd, ha]
      all_goals by_cases hd : d = c <;> simp [transferWith, Transfer.write, Event.write, Frame.write, hd]
    | _ => by_cases hf : format = ⟨8, 1⟩ <;> simp [transferWith, Event.write, Frame.write, hf]
  | _ => rfl

/-- So the register writes an AMC7891 hears are those that reach it on the bus. -/
theorem main_writes (n : Nat) {hw : Board} {K fuel : Nat} (hp : Prompt hw K) (hk : K ≤ fuel)
    {c : Client Op Op.Answer LoopVars} (hc : c.run Op.onBus = mainRun n) (d : Afe) :
    (heard (.afe d) none (hw.wire (final ((SPI.construct >>= fun _ => c.run (Op.onChip fuel)) hw unbooted)).log)).filterMap
      (Transfer.write d) = toChip d (final (mainRun n hw.env reset)).writes := by
  have hrun := mainRun_proper hw.env n
  rw [(client_final hp hk hc).wire, heard_busWire _ hrun, toChip, World.writes, List.filterMap_filterMap,
    List.filter_filterMap]
  exact List.filterMap_congr fun e he => transfer_write d (hrun e he)

/-- The gates are safe at the pins of the AMC7891s: at every moment of what a chip has heard an
    amplifier that is on has its gate pinched off or within 204 and 400 counts. -/
theorem main_gates (n : Nat) {hw : Board} {K fuel : Nat} (hp : Prompt hw K) (hk : K ≤ fuel)
    {c : Client Op Op.Answer LoopVars} (hc : c.run Op.onBus = mainRun n) {d : Afe} (hd : d ≠ .afe0) :
    Always (Gated d) ((heard (.afe d) none (hw.wire
      (final ((SPI.construct >>= fun _ => c.run (Op.onChip fuel)) hw unbooted)).log)).filterMap (Transfer.write d)) := by
  have hsafe : GatesSafe (final (mainRun n hw.env reset)).writes := wp_final (P := fun w => GatesSafe w.writes)
    (wp_mono (mainRun_gates hw.env n) (fun _ _ h => h) fun _ _ => gates_exit)
  rw [main_writes n hp hk hc d]
  exact always_gated_toChip (hsafe d hd)

theorem main_gates_ready : ∃ c : Client Op Op.Answer LoopVars, c.run Op.onBus = mainRun 32 ∧
    Always (Gated .afeA) ((heard (.afe .afeA) none (readyBoard.wire
      (final ((SPI.construct >>= fun _ => c.run (Op.onChip 1)) readyBoard unbooted)).log)).filterMap
        (Transfer.write .afeA)) := by
  obtain ⟨c, hc⟩ := operates_mainRun 32
  exact ⟨c, hc, main_gates 32 readyBoard_prompt le_rfl hc (by decide)⟩

end Graviton.Spi
