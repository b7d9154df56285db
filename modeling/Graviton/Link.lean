/-
  Graviton.Link — the protocol on the FPGA's port.

  `link` is the protocol as the FPGA sees it. Between commands the firmware polls the port,
  and greets before every 10000th poll; a byte is taken exactly after a poll that offered
  one, the telemetry it asks for follows line by line, then its echo, and only then the next
  poll. A shutdown says "error" five times, between commands, and nothing after that.

  `link_protocol`: whatever the board reads and the FPGA sends, every run of `main` follows
  the protocol and stands where it should when it returns, resets or halts. `link_answers`:
  so at every moment the echoes are the bytes taken, in order, but for the newest at most,
  and no greeting is lost.
-/
import Mathlib.Algebra.Group.Nat.Defs
import Graviton.Programming

namespace Graviton

open Effects History

/-! ## The protocol -/

inductive LinkState where
  /-- Polled so often; was the FPGA greeted since? -/
  | ready (polls : Nat) (greeted : Bool)
  /-- The last poll offered a byte. -/
  | offered (polls : Nat)
  /-- Byte `c` was taken; `due` are the lines it asked for, with their number of values. -/
  | serving (polls : Nat) (c : UInt8) (due : List (String × Nat))
  /-- The FPGA was notified of a shutdown so often. -/
  | failing (polls errors : Nat)
  deriving DecidableEq

/-- `slow`, which starts at 1, is a multiple of 10000 after `polls` iterations. -/
def greetingDue (polls : Nat) : Bool := Int32.ofNat (polls + 1) % 10000 = 0

/-- The lines of a telemetry dump. -/
def dumpLines : List (String × Nat) := ("LOG: telemetry dump\r\n", 0) :: telemetryLines.map fun line => (line.1, 1)

def asked (c : UInt8) : List (String × Nat) := if asksDump c then dumpLines else []

/-- A line to the FPGA. -/
def LinkState.say (text : String) (args : List Int) : LinkState → Option LinkState
  | .ready polls greeted =>
    if text = "hello\r\n" ∧ args = [] ∧ greeted = false ∧ greetingDue polls = true then some (.ready polls true)
    else if text = "error\r\n" ∧ args = [] ∧ greeted = false then some (.failing polls 1)
    else none
  | .offered _ => none
  | .serving polls c [] => if text = "c: %d\r\n" ∧ args = [(c.toNat : Int)] then some (.ready polls false) else none
  | .serving polls c (line :: due) =>
    if text = line.1 ∧ args.length = line.2 then some (.serving polls c due) else none
  | .failing polls errors =>
    if text = "error\r\n" ∧ args = [] ∧ errors < 5 then some (.failing polls (errors + 1)) else none

def LinkState.poll (r : Bool) : LinkState → Option LinkState
  | .ready polls greeted =>
    if greeted = greetingDue polls then some (if r then .offered (polls + 1) else .ready (polls + 1) false) else none
  | _ => none

def LinkState.take (c : UInt8) : LinkState → Option LinkState
  | .offered polls => some (.serving polls c (asked c))
  | _ => none

def link : Monitor LinkState Event where
  start := .ready 0 false
  step := fun s e => match e with
    | .printf .fpga text args => s.say text args
    | .readable r => s.poll r
    | .getc c => s.take c
    | _ => some s

/-! ## The firmware follows it -/

theorem link_steady {s : LinkState} : Stays Event.Steady fun l => link.state l = some s := by
  intro e l he h
  rw [Monitor.state_cons h]
  cases he with
  | look hl => cases hl <;> rfl
  | _ => rfl

theorem link_look {s : LinkState} : Stays (Event.Look .pc) fun l => link.state l = some s :=
  link_steady.mono fun _ => .look

/-- The lines still due, sent. -/
theorem link_lines {polls : Nat} {c : UInt8} (lines : List (String × Fw Int))
    (hl : ∀ line ∈ lines, Tells (Event.Look .pc) line.2)
    (env : Env) {w : World} (h : w.Idle)
    (hs : link.state w.log = some (.serving polls c (lines.map fun line => (line.1, 1)))) :
    ∃ w', (forM lines fun line => do
        let v ← line.2
        printf .fpga line.1 [v] : Fw Unit) env w = .ok () w' ∧ w'.Idle ∧
      link.state w'.log = some (.serving polls c []) := by
  induction lines generalizing w with
  | nil => exact ⟨w, rfl, h, hs⟩
  | cons line lines ih =>
    obtain ⟨v, w1, r1, i1, g1⟩ := hl line List.mem_cons_self env w h
    have h1 := g1.stays link_look hs
    have h2 : link.state (w1.push (.printf .fpga line.1 [v])).log =
        some (.serving polls c (lines.map fun line => (line.1, 1))) := by
      rw [push_log, Monitor.state_cons h1]
      exact if_pos ⟨rfl, rfl⟩
    obtain ⟨w3, r3, i3, h3⟩ := ih (fun x hx => hl x (List.mem_cons_of_mem line hx)) (push_idle.mpr i1) h2
    refine ⟨w3, ?_, i3, h3⟩
    rw [List.forM_cons, bind_assoc, run_bind_ok r1, run_bind_ok (run_printf _ _ _ env w1)]
    exact r3

/-- The telemetry a byte asks for. -/
theorem link_dump {polls : Nat} {c : UInt8} (env : Env) {w : World} (h : w.Idle)
    (hs : link.state w.log = some (.serving polls c dumpLines)) :
    ∃ w', dumpTelemetry .fpga env w = .ok () w' ∧ w'.Idle ∧ link.state w'.log = some (.serving polls c []) := by
  have h1 : link.state (w.push (.printf .fpga "LOG: telemetry dump\r\n" [])).log =
      some (.serving polls c (telemetryLines.map fun line => (line.1, 1))) := by
    rw [push_log, Monitor.state_cons hs]
    rfl
  obtain ⟨w2, r2, i2, h2⟩ := link_lines telemetryLines (tells_telemetryLines .pc) env (push_idle.mpr h) h1
  obtain ⟨_, w3, r3, i3, g3⟩ := tells_clearAlarms .pc env w2 i2
  refine ⟨w3, ?_, i3, g3.stays link_look h2⟩
  unfold dumpTelemetry
  rw [run_bind_ok (run_printf _ _ _ env w), run_bind_ok r2]
  exact r3

theorem link_changeState {polls : Nat} {c : UInt8} (env : Env) {w : World} (h : w.Idle)
    (hs : link.state w.log = some (.serving polls c (asked c))) :
    ∃ w', changeState c env w = .ok () w' ∧ w'.Idle ∧ link.state w'.log = some (.serving polls c []) := by
  unfold asked at hs
  cases hd : asksDump c with
  | true =>
    rw [hd, if_pos rfl] at hs
    rw [changeState_dump hd]
    exact link_dump env h hs
  | false =>
    rw [hd, if_neg (by decide)] at hs
    obtain ⟨_, w1, r1, i1, g1⟩ := tells_changeState hd env w h
    exact ⟨w1, r1, i1, g1.stays link_steady hs⟩

/-- A byte offered is taken, served and echoed. -/
theorem link_command {polls : Nat} (env : Env) {w : World} (h : w.Idle)
    (hs : link.state w.log = some (.offered polls)) :
    ∃ w', command env w = .ok () w' ∧ w'.Idle ∧ link.state w'.log = some (.ready polls false) := by
  let c := env.getc w.log
  have h1 : link.state (w.push (.getc c)).log = some (.serving polls c (asked c)) := by
    rw [push_log, Monitor.state_cons hs]
    rfl
  obtain ⟨w2, r2, i2, h2⟩ := link_changeState env (push_idle.mpr h) h1
  obtain ⟨_, w3, r3, i3, g3⟩ := tells_line .pc "received char: %d\r\n" [c.toNat] env w2 i2
  have h3 := g3.stays link_look h2
  have h4 : link.state (w3.push (.printf .fpga "c: %d\r\n" [(c.toNat : Int)])).log = some (.ready polls false) := by
    rw [push_log, Monitor.state_cons h3]
    exact if_pos ⟨rfl, rfl⟩
  have i4 : (w3.push (.printf .fpga "c: %d\r\n" [(c.toNat : Int)])).Idle := push_idle.mpr i3
  obtain ⟨_, w5, r5, i5, g5⟩ := tells_gate ((w3.mem.afe .afeA).mode = .tx ∨ (w3.mem.afe .afeB).mode = .tx) env _ i4
  refine ⟨w5, ?_, i5, g5.stays link_steady h4⟩
  unfold command
  rw [run_bind_ok (show fpgaGetc env w = .ok c (w.push (.getc c)) from rfl), run_bind_ok r2, run_bind_ok r3,
    run_bind_ok (run_printf _ _ _ env w3), run_bind_ok (run_getMem env _)]
  exact r5

/-- The greeting, when it is due. -/
theorem link_periodic {polls : Nat} (hdue : greetingDue polls = true) (v : LoopVars) (env : Env) {w : World}
    (h : w.Idle)
    (hs : link.state w.log = some (.ready polls false)) :
    ∃ v' w', periodic v env w = .ok v' w' ∧ w'.Idle ∧ link.state w'.log = some (.ready polls true) ∧
    v'.slow = v.slow := by
  have hop : ∀ msg, asksDump msg = false → ∀ w : World, w.Idle → link.state w.log = some (.ready polls false) →
      ∃ w', changeState msg env w = .ok () w' ∧ w'.Idle ∧ link.state w'.log = some (.ready polls false) := by
    intro msg hm w h hs
    obtain ⟨_, w1, r1, i1, g1⟩ := tells_changeState hm env w h
    exact ⟨w1, r1, i1, g1.stays link_steady hs⟩
  have hello : ∀ w : World, link.state w.log = some (.ready polls false) →
      link.state (w.push (.printf .fpga "hello\r\n" [])).log = some (.ready polls true) := by
    intro w hs
    rw [push_log, Monitor.state_cons hs]
    exact if_pos ⟨rfl, rfl, rfl, hdue⟩
  unfold periodic
  dsimp only
  by_cases hm : v.modeSwitched = 0
  · obtain ⟨w1, r1, i1, h1⟩ := hop csOpCode21 (by decide) w h hs
    obtain ⟨w2, r2, i2, h2⟩ := hop csOpCode2 (by decide) w1 i1 h1
    rw [if_pos hm, run_bind_ok r1, pure_bind, run_bind_ok r2, run_bind_ok (run_printf _ _ _ env w2)]
    exact ⟨_, _, rfl, push_idle.mpr i2, hello w2 h2, rfl⟩
  · obtain ⟨w2, r2, i2, h2⟩ := hop csOpCode2 (by decide) w h hs
    rw [if_neg hm, pure_bind, run_bind_ok r2, run_bind_ok (run_printf _ _ _ env w2)]
    exact ⟨_, _, rfl, push_idle.mpr i2, hello w2 h2, rfl⟩

/-- An iteration until its check: one poll. -/
theorem link_mainFirst {polls : Nat} {v : LoopVars} (hv : v.slow = Int32.ofNat (polls + 1)) (env : Env) {w : World}
    (h : w.Idle) (hs : link.state w.log = some (.ready polls false)) :
    ∃ v' w', mainFirst v env w = .ok v' w' ∧ w'.Idle ∧ link.state w'.log = some (.ready (polls + 1) false) ∧
      v'.slow = Int32.ofNat (polls + 2) := by
  have hserve : ∀ (v : LoopVars) (w : World), w.Idle → link.state w.log = some (.ready polls (greetingDue polls)) →
      ∃ w', (do let readable ← fpgaReadable
                if readable then command
                return v : Fw LoopVars) env w = .ok v w' ∧ w'.Idle ∧
        link.state w'.log = some (.ready (polls + 1) false) := by
    intro v w h hs
    have hpoll : link.state (w.push (.readable (env.readable w.log))).log =
        some (if env.readable w.log then .offered (polls + 1) else .ready (polls + 1) false) := by
      rw [push_log, Monitor.state_cons hs]
      exact if_pos rfl
    rw [run_bind_ok (show fpgaReadable env w = .ok (env.readable w.log)
      (w.push (.readable (env.readable w.log))) from rfl)]
    cases hr : env.readable w.log with
    | false =>
      rw [hr] at hpoll
      exact ⟨_, rfl, push_idle.mpr h, hpoll⟩
    | true =>
      rw [hr] at hpoll
      obtain ⟨w2, r2, i2, h2⟩ := link_command env (push_idle.mpr h) hpoll
      exact ⟨w2, by rw [if_pos rfl, run_bind_ok r2]; rfl, i2, h2⟩
  have hnext : v.slow + 1 = Int32.ofNat (polls + 2) := by
    rw [hv, show polls + 2 = (polls + 1) + 1 from rfl, Int32.ofNat_add (polls + 1) 1]
    rfl
  unfold mainFirst
  by_cases hd : v.slow % 10000 = 0
  · have hdue : greetingDue polls = true := by
      rw [hv] at hd
      exact decide_eq_true hd
    obtain ⟨v1, w1, r1, i1, h1, hslow⟩ := link_periodic hdue v env h hs
    obtain ⟨w2, r2, i2, h2⟩ := hserve { v1 with slow := v1.slow + 1 } w1 i1 (by rw [hdue]; exact h1)
    rw [if_pos hd, run_bind_ok r1]
    exact ⟨_, w2, r2, i2, h2, by rw [← hnext, ← hslow]⟩
  · have hdue : greetingDue polls = false := by
      rw [hv] at hd
      exact decide_eq_false hd
    obtain ⟨w2, r2, i2, h2⟩ := hserve { v with slow := v.slow + 1 } w h (by rw [hdue]; exact hs)
    rw [if_neg hd]
    exact ⟨_, w2, r2, i2, h2, hnext⟩

/-- A shutdown between commands notifies the FPGA five times. -/
theorem link_exit {polls : Nat} {env : Env} {e : Stop} {w' : World}
    (he : Exit env (fun w => link.state w.log = some (.ready polls false)) e w') :
    e = .systemReset ∧ link.state w'.log = some (.failing polls 5) := by
  cases e with
  | systemReset =>
    obtain ⟨w, r, r2, r3, hi, hs, hr⟩ := he
    obtain ⟨w1, h1, hl⟩ := shutdown_within hi hr
    have hs1 := h1.stays link_steady hs
    have hnext : ∀ k, k < 5 → ∀ l, link.state l = some (.failing polls k) →
        link.state (errorEvent :: l) = some (.failing polls (k + 1)) := fun k hk l h =>
      (Monitor.state_cons h).trans (if_pos ⟨rfl, rfl, hk⟩)
    have h1 : link.state (errorEvent :: w1.log) = some (.failing polls 1) := (Monitor.state_cons hs1).trans rfl
    refine ⟨rfl, ?_⟩
    rw [hl]
    exact hnext 4 (by decide) _ (hnext 3 (by decide) _ (hnext 2 (by decide) _ (hnext 1 (by decide) _ h1)))
  | _ => exact absurd he id

theorem link_init (env : Env) : wp init (fun _ w => w.Idle ∧ link.state w.log = some (.ready 0 false))
    (fun e w => (e = .halted ∧ w = haltedWorld) ∨
      Exit env (fun w => link.state w.log = some (.ready 0 false)) e w) env reset := by
  refine init_keeps (J := fun l => link.state l = some (.ready 0 false)) rfl ?_ ?_ link_steady env
  · rintro e l (he | rfl) h
    · exact link_look e l he h
    · rw [Monitor.state_cons h]
      rfl
  · intro l h
    refine Monitor.state_ignored h fun e he => ?_
    have hall : ∀ e ∈ programming, link.step (.ready 0 false) e = some (.ready 0 false) := by
      decide +kernel
    exact hall e (List.mem_reverse.mp he)

theorem link_run (env : Env) (n : Nat) : wp (mainRun n)
    (fun v w => v.check.toNat ≤ 22 ∧ v.slow = Int32.ofNat (n + 1) ∧ w.Idle ∧ link.state w.log = some (.ready n false))
    (fun e w => (e = .halted ∧ w = haltedWorld) ∨
      (e = .systemReset ∧ ∃ polls, polls ≤ n ∧ link.state w.log = some (.failing polls 5))) env reset := by
  induction n with
  | zero =>
    unfold mainRun
    refine wp_bind.mpr (wp_mono (link_init env) ?_ fun _ _ he =>
      he.imp_right fun h => ⟨(link_exit h).1, 0, Nat.le_refl 0, (link_exit h).2⟩)
    rintro _ w ⟨hi, hs⟩
    obtain ⟨_, w1, r1, i1, g1⟩ := tells_mainPrologue env w hi
    exact wp_bind.mpr (wp_of_ok r1 (wp_pure.mpr ⟨by decide, rfl, i1, g1.stays link_look hs⟩))
  | succ n ih =>
    rw [mainRun_succ]
    refine wp_bind.mpr (wp_mono ih ?_ fun _ _ he => he.imp_right fun ⟨h, polls, hle, hs⟩ => ⟨h, polls, by omega, hs⟩)
    rintro v w ⟨hv, hslow, hi, hs⟩
    obtain ⟨v1, w1, r1, i1, h1, hslow1⟩ := link_mainFirst hslow env hi hs
    obtain ⟨v2, w2, r2, _, _, _, hc⟩ := mainFirst_run v env hi
    cases r1.symm.trans r2
    have hlt : v1.check.toNat < 32 := by rw [hc]; omega
    have hkeep := keeps_safetyCheck link_steady hlt env w1 i1 h1
    have hnext := safetyCheck_next hlt env i1
    rw [mainIteration_eq]
    refine wp_bind.mpr (wp_of_ok r1 (wp_bind.mpr ?_))
    cases hr : safetyCheck v1.check env w1 with
    | ok m w3 =>
      have h3 := wp_ok hkeep hr
      have hle := (wp_ok hnext hr).2
      exact wp_of_ok hr (wp_pure.mpr ⟨hle, hslow1, h3.1, h3.2⟩)
    | error e w3 =>
      obtain ⟨he, hs3⟩ := link_exit (wp_error hkeep hr)
      exact wp_of_error hr (Or.inr ⟨he, n + 1, Nat.le_refl _, hs3⟩)

/-- Every run follows the protocol: it returns between commands after `n` polls, or was reset
    after notifying the FPGA five times, or halted with nothing said. -/
theorem link_protocol (env : Env) (n : Nat) :
    (∃ v w, mainRun n env reset = .ok v w ∧ link.state w.log = some (.ready n false)) ∨
      (∃ w polls, mainRun n env reset = .error .systemReset w ∧ polls ≤ n ∧
        link.state w.log = some (.failing polls 5)) ∨
      ∃ w, mainRun n env reset = .error .halted w ∧ link.state w.log = some (.ready 0 false) := by
  have hwp := link_run env n
  cases hr : mainRun n env reset with
  | ok v w =>
    obtain ⟨_, _, _, hs⟩ := wp_ok hwp hr
    exact Or.inl ⟨v, w, rfl, hs⟩
  | error e w =>
    rcases wp_error hwp hr with ⟨rfl, rfl⟩ | ⟨rfl, polls, hle, hs⟩
    · exact Or.inr (Or.inr ⟨_, rfl, rfl⟩)
    · exact Or.inr (Or.inl ⟨w, polls, rfl, hle, hs⟩)

/-! ## What the FPGA can rely on -/

/-- The value of an echo. -/
def Event.echo : Event → Option Int
  | .printf .fpga text [v] => if text = "c: %d\r\n" then some v else none
  | _ => none

/-- How often the FPGA was told `text`. -/
def told (text : String) (l : List Event) : Nat := l.count (.printf .fpga text [])

def Event.isPoll : Event → Bool
  | .readable _ => true
  | _ => false

/-- The bytes taken, as an echo shows them. -/
def taken (l : List Event) : List Int := (l.filterMap Event.received).map fun c => (c.toNat : Int)

namespace LinkState

def polls : LinkState → Nat
  | .ready polls _ => polls
  | .offered polls => polls
  | .serving polls _ _ => polls
  | .failing polls _ => polls

def greeted : LinkState → Bool
  | .ready _ greeted => greeted
  | _ => false

/-- The byte not echoed yet. -/
def pending : LinkState → List Int
  | .serving _ c _ => [(c.toNat : Int)]
  | _ => []

/-- The lines due. -/
def lines : LinkState → List (String × Nat)
  | .serving _ _ due => due
  | _ => []

def errors : LinkState → Nat
  | .failing _ errors => errors
  | _ => 0

end LinkState

theorem greetingDue_iff {polls : Nat} (h : polls + 1 < 2 ^ 31) :
    greetingDue polls = true ↔ (polls + 1) % 10000 = 0 := by
  have hm := Int32.ofNat_mod h (show 10000 < 2 ^ 31 by decide)
  have hlt : (polls + 1) % 10000 < 2 ^ 31 := by omega
  unfold greetingDue
  rw [decide_eq_true_iff, show (10000 : Int32) = Int32.ofNat 10000 from rfl, ← hm]
  constructor
  · intro h0
    have := congrArg Int32.toInt h0
    rw [Int32.toInt_ofNat_of_lt hlt, Int32.toInt_zero] at this
    omega
  · intro h0
    rw [h0]
    rfl

/-- What the protocol's state says of the history: how often the FPGA was polled, greeted and
    notified, and that the bytes taken are the echoes but for the one pending. -/
structure Linked (s : LinkState) (l : List Event) : Prop where
  polled : l.countP Event.isPoll = s.polls
  due : s.greeted = true → greetingDue s.polls = true
  hellos : s.polls + 1 < 2 ^ 31 → told "hello\r\n" l = (s.polls + s.greeted.toNat) / 10000
  errors : told "error\r\n" l = s.errors
  few : s.errors ≤ 5
  lines : ∀ line ∈ s.lines, line ∈ dumpLines
  echoes : taken l = s.pending ++ l.filterMap Event.echo

theorem linked_start : Linked (.ready 0 false) [] :=
  ⟨rfl, nofun, fun _ => rfl, rfl, Nat.zero_le 5, fun _ h => absurd h List.not_mem_nil, rfl⟩

theorem told_self (text : String) (l : List Event) : told text (.printf .fpga text [] :: l) = told text l + 1 :=
  List.count_cons_self

theorem told_ne {text : String} {e : Event} (h : e ≠ .printf .fpga text []) (l : List Event) :
    told text (e :: l) = told text l :=
  List.count_cons_of_ne h

/-- An event that is no poll, no greeting, no notice, no byte and no echo. -/
theorem Linked.other {s : LinkState} {e : Event} {l : List Event} (h : Linked s l) (hp : e.isPoll = false)
    (hr : e.received = none) (he : e.echo = none) (hh : e ≠ .printf .fpga "hello\r\n" [])
    (hn : e ≠ .printf .fpga "error\r\n" []) : Linked s (e :: l) := by
  refine ⟨?_, h.due, ?_, ?_, h.few, h.lines, ?_⟩
  · rw [List.countP_cons_of_neg (by rw [hp]; decide), h.polled]
  · rw [told_ne hh]
    exact h.hellos
  · rw [told_ne hn]
    exact h.errors
  · unfold taken
    rw [List.filterMap_cons_none hr, List.filterMap_cons_none he]
    exact h.echoes

/-- No line of a dump is taken for anything else. -/
theorem dumpLines_other : ∀ line ∈ dumpLines, line.1 ≠ "hello\r\n" ∧ line.1 ≠ "error\r\n" ∧ line.1 ≠ "c: %d\r\n" := by
  decide +kernel

theorem echo_of_ne {text : String} (args : List Int) (h : text ≠ "c: %d\r\n") :
    Event.echo (.printf .fpga text args) = none := by
  unfold Event.echo
  split
  · rename_i he
    cases he
    exact if_neg h
  · rfl

/-- What a line said, case by case. -/
inductive Says : LinkState → String → List Int → LinkState → Prop
  | hello {polls : Nat} : greetingDue polls = true → Says (.ready polls false) "hello\r\n" [] (.ready polls true)
  | echo (polls : Nat) (c : UInt8) : Says (.serving polls c []) "c: %d\r\n" [(c.toNat : Int)] (.ready polls false)
  | line (polls : Nat) (c : UInt8) (line : String × Nat) (due : List (String × Nat)) (args : List Int) :
      Says (.serving polls c (line :: due)) line.1 args (.serving polls c due)
  | fail (polls : Nat) : Says (.ready polls false) "error\r\n" [] (.failing polls 1)
  | error {polls errors : Nat} : errors < 5 → Says (.failing polls errors) "error\r\n" [] (.failing polls (errors + 1))

theorem says_of_say {s t : LinkState} {text : String} {args : List Int} (hs : s.say text args = some t) :
    Says s text args t := by
  cases s with
  | offered polls => cases hs
  | ready polls greeted =>
    by_cases hc : text = "hello\r\n" ∧ args = [] ∧ greeted = false ∧ greetingDue polls = true
    · rw [LinkState.say, if_pos hc] at hs
      obtain ⟨rfl, rfl, rfl, hdue⟩ := hc
      cases hs
      exact .hello hdue
    · rw [LinkState.say, if_neg hc, Option.ite_none_right_eq_some] at hs
      obtain ⟨⟨rfl, rfl, rfl⟩, hs⟩ := hs
      cases hs
      exact .fail polls
  | serving polls c due =>
    cases due with
    | nil =>
      simp only [LinkState.say, Option.ite_none_right_eq_some] at hs
      obtain ⟨⟨rfl, rfl⟩, hs⟩ := hs
      cases hs
      exact .echo polls c
    | cons line due =>
      simp only [LinkState.say, Option.ite_none_right_eq_some] at hs
      obtain ⟨⟨rfl, _⟩, hs⟩ := hs
      cases hs
      exact .line polls c line due args
  | failing polls errors =>
    simp only [LinkState.say, Option.ite_none_right_eq_some] at hs
    obtain ⟨⟨rfl, rfl, hlt⟩, hs⟩ := hs
    cases hs
    exact .error hlt

theorem Linked.say {s t : LinkState} {text : String} {args : List Int} {l : List Event} (h : Linked s l)
    (hs : Says s text args t) : Linked t (.printf .fpga text args :: l) := by
  have hpoll : List.countP Event.isPoll (.printf .fpga text args :: l) = s.polls := by
    rw [List.countP_cons_of_neg Bool.false_ne_true, h.polled]
  cases hs with
  | @hello polls hdue =>
    refine ⟨hpoll, fun _ => hdue, fun hlt => ?_, ?_, h.few, h.lines, h.echoes⟩
    · have hm : (polls + 1) % 10000 = 0 := (greetingDue_iff hlt).mp hdue
      have hh : told "hello\r\n" l = polls / 10000 := h.hellos hlt
      rw [told_self, hh]
      show polls / 10000 + 1 = (polls + 1) / 10000
      omega
    · rw [told_ne (by decide)]
      exact h.errors
  | echo polls c =>
    refine ⟨hpoll, nofun, fun hlt => ?_, ?_, h.few, h.lines, ?_⟩
    · rw [told_ne (by simp)]
      exact h.hellos hlt
    · rw [told_ne (by simp)]
      exact h.errors
    · rw [List.filterMap_cons_some (show Event.echo (.printf .fpga "c: %d\r\n" [(c.toNat : Int)]) =
        some (c.toNat : Int) from rfl)]
      exact h.echoes
  | line polls c line due =>
    obtain ⟨h1, h2, h3⟩ := dumpLines_other line (h.lines line List.mem_cons_self)
    have hother := h.other (e := .printf .fpga line.1 args) rfl rfl (echo_of_ne args h3)
      (fun he => h1 (by injection he)) fun he => h2 (by injection he)
    exact ⟨hpoll, nofun, hother.hellos, hother.errors, h.few,
      fun x hx => h.lines x (List.mem_cons_of_mem line hx), hother.echoes⟩
  | fail polls =>
    refine ⟨hpoll, nofun, fun hlt => ?_, ?_, Nat.le_add_left 1 4, h.lines, h.echoes⟩
    · rw [told_ne (by decide)]
      exact h.hellos hlt
    · have he : told "error\r\n" l = 0 := h.errors
      rw [told_self, he]
      rfl
  | @error polls errors hlt5 =>
    refine ⟨hpoll, nofun, fun hlt => ?_, ?_, hlt5, h.lines, h.echoes⟩
    · rw [told_ne (by decide)]
      exact h.hellos hlt
    · have he : told "error\r\n" l = errors := h.errors
      rw [told_self, he]
      rfl

theorem Linked.poll {s t : LinkState} {r : Bool} {l : List Event} (h : Linked s l) (hs : s.poll r = some t) :
    Linked t (.readable r :: l) := by
  cases s with
  | ready polls greeted =>
    simp only [LinkState.poll, Option.ite_none_right_eq_some] at hs
    obtain ⟨hg, hs⟩ := hs
    have hcount : List.countP Event.isPoll (.readable r :: l) = polls + 1 := by
      rw [List.countP_cons_of_pos rfl, h.polled]
      rfl
    have hhello : polls + 1 + 1 < 2 ^ 31 → told "hello\r\n" (.readable r :: l) = (polls + 1) / 10000 := by
      intro hlt
      have hh : told "hello\r\n" l = (polls + greeted.toNat) / 10000 := h.hellos (show polls + 1 < 2 ^ 31 by omega)
      have hiff := greetingDue_iff (show polls + 1 < 2 ^ 31 by omega)
      rw [told_ne (by simp), hh]
      -- without a greeting due the count of ten thousands stays
      cases greeted with
      | true => rfl
      | false =>
        have hne : ¬ (polls + 1) % 10000 = 0 := fun hm => absurd (hiff.mpr hm) (by rw [← hg]; decide)
        show polls / 10000 = _
        omega
    have herr : told "error\r\n" (.readable r :: l) = 0 := by
      rw [told_ne (by simp)]
      exact h.errors
    cases r with
    | true => cases hs; exact ⟨hcount, nofun, hhello, herr, h.few, h.lines, h.echoes⟩
    | false => cases hs; exact ⟨hcount, nofun, hhello, herr, h.few, h.lines, h.echoes⟩
  | _ => cases hs

theorem Linked.take {s t : LinkState} {c : UInt8} {l : List Event} (h : Linked s l) (hs : s.take c = some t) :
    Linked t (.getc c :: l) := by
  cases s with
  | offered polls =>
    cases hs
    refine ⟨?_, nofun, fun hlt => ?_, ?_, h.few, fun line hl => ?_, ?_⟩
    · rw [List.countP_cons_of_neg Bool.false_ne_true, h.polled]
      rfl
    · rw [told_ne (by simp)]
      exact h.hellos hlt
    · rw [told_ne (by simp)]
      exact h.errors
    · have hl' : line ∈ asked c := hl
      unfold asked at hl'
      split at hl'
      · exact hl'
      · exact absurd hl' List.not_mem_nil
    · have he : taken l = l.filterMap Event.echo := h.echoes
      unfold taken at he ⊢
      rw [List.filterMap_cons_some (show Event.received (.getc c) = some c from rfl), List.map_cons, he]
      rfl
  | _ => cases hs

theorem linked_step (s : LinkState) (e : Event) (t : LinkState) (l : List Event) (h : Linked s l)
    (hs : link.step s e = some t) : Linked t (e :: l) := by
  cases e with
  | printf port text args =>
    cases port with
    | pc =>
      cases hs
      exact h.other rfl rfl rfl (by simp) (by simp)
    | fpga => exact h.say (says_of_say hs)
  | readable r => exact h.poll hs
  | getc c => exact h.take hs
  | _ =>
    cases hs
    exact h.other rfl rfl rfl (by simp) (by simp)

/-- At every moment of every run the echoes are the bytes taken, in order, but for the newest
    at most; the FPGA was notified of errors five times at most; and while `slow` does not
    overflow it was greeted once for every 10000 polls, the last time before the poll it is
    due for. After `n` iterations everything taken was echoed. -/
theorem link_answers (env : Env) (n : Nat) :
    (∀ l, l <:+ (final (mainRun n env reset)).log →
      (∃ pending : List Int, pending.length ≤ 1 ∧ taken l = pending ++ l.filterMap Event.echo) ∧
        told "error\r\n" l ≤ 5 ∧
        (l.countP Event.isPoll + 1 < 2 ^ 31 →
          told "hello\r\n" l = l.countP Event.isPoll / 10000 ∨
          told "hello\r\n" l = (l.countP Event.isPoll + 1) / 10000)) ∧
      ∀ v w, mainRun n env reset = .ok v w → w.log.countP Event.isPoll = n ∧ taken w.log = w.log.filterMap Event.echo ∧
        told "error\r\n" w.log = 0 ∧ (n + 1 < 2 ^ 31 → told "hello\r\n" w.log = n / 10000) := by
  have hwp := link_run env n
  constructor
  · have hend : ∃ s, link.state (final (mainRun n env reset)).log = some s := by
      cases hr : mainRun n env reset with
      | ok v w => exact ⟨_, (wp_ok hwp hr).2.2.2⟩
      | error e w =>
        rcases wp_error hwp hr with ⟨_, rfl⟩ | ⟨_, polls, _, hs⟩
        · exact ⟨.ready 0 false, rfl⟩
        · exact ⟨_, hs⟩
    obtain ⟨s, hs⟩ := hend
    intro l hl
    obtain ⟨t, ht⟩ := Monitor.state_suffix hl hs
    have h := Monitor.invariant linked_start linked_step ht
    have hp : t.pending.length ≤ 1 := by cases t <;> simp [LinkState.pending]
    refine ⟨⟨t.pending, hp, h.echoes⟩, by rw [h.errors]; exact h.few, fun hlt => ?_⟩
    rw [h.polled] at hlt ⊢
    rw [h.hellos hlt]
    cases t.greeted with
    | true => exact Or.inr rfl
    | false => exact Or.inl rfl
  · intro v w hr
    have h := Monitor.invariant linked_start linked_step (wp_ok hwp hr).2.2.2
    exact ⟨h.polled, h.echoes, h.errors, h.hellos⟩

end Graviton
