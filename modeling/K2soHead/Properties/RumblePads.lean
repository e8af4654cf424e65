import K2soHead.Properties.RumbleRuns

/-!
# Rumble, pad by pad

The DualSense follows the last request through every run.  The DualShock 4 and the Switch fail an
assertion when a duration of 0 meets a delayed start; the DualShock 3, the Wii and the PS Move go
on waiting for a start that will never come; Stadia and Xbox lose a request that meets a busy
link.
-/

namespace K2soHead

open Faults RumbleDriver

variable {σ μ ω : Type} {drv : RumbleDriver σ μ ω}

/-! ## DualSense -/

namespace Ds5

theorem stopping : Stopping driver where
  ready _ := rfl
  stops := rfl
  held_hold m ins := by simp [driver]
  held_other op s ins := by
    cases op <;> simp [driver, other, sendOutputReport]

/-- What a report tells the motors, if anything. -/
def motorsOf : OutputReport → Option DualMagnitudes
  | .intr data =>
      if data.getD 4 0 &&& DS5_FLAG0_HAPTICS_SELECT ≠ 0 then some ⟨data.getD 6 0, data.getD 7 0⟩
      else none
  | _ => none

/-- What the motors of a pad do that got these reports. -/
def motors (sent : List OutputReport) : DualMagnitudes :=
  ((sent.filterMap motorsOf).getLast?).getD {}

theorem motors_append_some {sent reports : List OutputReport} {m : DualMagnitudes}
    (h : reports.filterMap motorsOf = [m]) : motors (sent ++ reports) = m := by
  rw [motors, List.filterMap_append, h, List.getLast?_concat, Option.getD_some]

theorem motors_append_none {sent reports : List OutputReport}
    (h : reports.filterMap motorsOf = []) : motors (sent ++ reports) = motors sent := by
  rw [motors, List.filterMap_append, h, List.append_nil, motors]

theorem motorsOf_sendOutputReport (out : Ds5OutputReport) (ins : Instance) :
    (sendOutputReport out ins).2.filterMap motorsOf =
      if out.validFlag0 &&& DS5_FLAG0_HAPTICS_SELECT ≠ 0 then [⟨out.motorRight, out.motorLeft⟩]
      else [] := by
  simp only [sendOutputReport, withCrc32, Ds5OutputReport.body, List.filterMap_cons, motorsOf,
    List.filterMap_nil]
  split_ifs <;> simp_all

theorem motorsOf_vibration (out : Ds5OutputReport) (ins : Instance)
    (hflag : out.validFlag0 = DS5_FLAG0_HAPTICS_SELECT) :
    (sendOutputReport (vibration out ins) ins).2.filterMap motorsOf =
      [⟨out.motorRight, out.motorLeft⟩] := by
  have hselect : (DS5_FLAG0_HAPTICS_SELECT &&& DS5_FLAG0_HAPTICS_SELECT) ≠ 0 := by decide
  have hboth :
      ((DS5_FLAG0_HAPTICS_SELECT ||| DS5_FLAG0_COMPATIBLE_VIBRATION) &&&
        DS5_FLAG0_HAPTICS_SELECT) ≠ 0 := by decide
  rw [motorsOf_sendOutputReport]
  unfold vibration
  split
  · exact if_pos (hflag ▸ hselect)
  · exact if_pos (hflag ▸ hboth)

theorem motorsOf_led (out : Ds5OutputReport) (ins : Instance) (hflag : out.validFlag0 = 0) :
    (sendOutputReport out ins).2.filterMap motorsOf = [] := by
  rw [motorsOf_sendOutputReport, hflag]
  exact if_neg (by decide)

theorem motorsOf_other (op : Op) (ins : Instance) :
    (other op ins).2.filterMap motorsOf = [] := by
  cases op with
  | firmwareVersion => rfl
  | setPlayerLeds value => exact motorsOf_led _ _ rfl
  | setLightbarColor r g b => exact motorsOf_led _ _ rfl
  | enableLightbar => exact motorsOf_led _ _ rfl

theorem motors_step {d d' : RumblePad Instance DualMagnitudes} {e : Event DualMagnitudes Op}
    (h : RumbleDriver.Effect driver d d' e) (hmotors : motors d.sent = d.playing.getD {}) :
    motors d'.sent = d'.playing.getD {} := by
  cases h with
  | nothing _ _ sent playing => rw [sent, playing, hmotors]
  | held _ _ _ _ sent playing => rw [sent, playing, hmotors]
  | on _ m _ _ sent playing =>
    rw [sent, playing]
    exact motors_append_some (motorsOf_vibration _ _ rfl)
  | off _ _ sent playing =>
    rw [sent, playing]
    exact motors_append_some (motorsOf_vibration _ _ rfl)
  | other op _ _ sent playing =>
    rw [sent, playing, ← hmotors]
    exact motors_append_none (motorsOf_other op _)

theorem exists_run (ins : Instance) (es : List (Event DualMagnitudes Op)) :
    ∃ d, run driver.step { ins := ins } es = some d ∧ Follows driver (requests es) d := by
  refine run_isSome (P := fun es d => Follows driver (requests es) d) ?_ ?_ es
  · exact .idle ⟨rfl, rfl⟩ rfl rfl
  · intro es d e hfollows
    have hne : driver.step d e ≠ none := by
      rw [Ne, step_eq_none_iff hfollows.tidy]
      rintro ⟨-, -, hasserts⟩
      cases hasserts
    obtain ⟨d', hstep⟩ := Option.ne_none_iff_exists'.mp hne
    have htaken : Taken driver d e := by cases e <;> first | rfl | trivial
    exact ⟨d', hstep, hfollows.step stopping htaken hstep⟩

/-- Whatever the order of requests, LED changes and timers, no assertion fails, and the pad is
where its last request says. -/
theorem last_request_followed (ins : Instance) (es : List (Event DualMagnitudes Op)) :
    ∃ d, run driver.step { ins := ins } es = some d ∧ Follows driver (requests es) d ∧
      motors d.sent = d.playing.getD {} := by
  obtain ⟨d, hrun, hfollows⟩ := exists_run ins es
  have hinv := run_invariant (P := fun _ d => Tidy d ∧ motors d.sent = d.playing.getD {})
    ⟨⟨fun hne => absurd rfl hne, fun hne => absurd rfl hne⟩, rfl⟩ ?_ hrun
  · exact ⟨d, hrun, hfollows, hinv.2⟩
  · rintro es s e t ⟨htidy, hmotors⟩ hstep
    exact ⟨htidy.step hstep, motors_step (step_effect htidy hstep) hmotors⟩

end Ds5

/-! ## DualShock 4 and Switch -/

theorem Ds4.stopping : Stopping Ds4.driver where
  ready _ := rfl
  stops := rfl
  held_hold m ins := by simp [Ds4.driver]
  held_other op s ins := rfl

theorem Switch.stopping : Stopping Switch.driver where
  ready _ := rfl
  stops := rfl
  held_hold m ins := by simp [Switch.driver]
  held_other op s ins := by
    cases op with
    | setPlayerLeds leds =>
      simp only [Switch.driver, Switch.other]
      split_ifs <;> rfl
    | setup subcmd ready => rfl
    | otherPad => rfl

/-- Requests can bring the DualShock 4 or the Switch driver down exactly if one of them asks for
a duration of 0 and is delayed itself, or is an immediate one right behind a delayed one. -/
theorem canAbort_iff (rs : List (RumbleRequest DualMagnitudes)) :
    (CanAbort Ds4.driver Ds4.setup rs ↔ MayAbort rs) ∧
      (CanAbort Switch.driver { ins := {} } rs ↔ MayAbort rs) := by
  constructor
  · constructor
    · rintro ⟨es, rfl, hnone⟩
      exact mayAbort_of_run Ds4.stopping (fun _ => rfl) (.idle ⟨rfl, rfl⟩ rfl rfl) hnone
    · exact canAbort_of_mayAbort Ds4.stopping rfl ⟨rfl, rfl⟩
  · constructor
    · rintro ⟨es, rfl, hnone⟩
      exact mayAbort_of_run Switch.stopping (fun _ => rfl) (.idle ⟨rfl, rfl⟩ rfl rfl) hnone
    · exact canAbort_of_mayAbort Switch.stopping rfl ⟨rfl, rfl⟩

/-! ## DualShock 3, Wii and PS Move -/

namespace Ds4

/-- What the color and the motors are set to. -/
structure Look where
  red : UInt8
  green : UInt8
  blue : UInt8
  motors : DualMagnitudes

/-- The report that shows it. -/
def Look.report (l : Look) : OutputReport :=
  .intr (withCrc32 (Ds4OutputReport.body
    { flags := DS4_FF_FLAG_BLINK_COLOR_RUMBLE
      motorRight := l.motors.weak
      motorLeft := l.motors.strong
      ledRed := l.red
      ledGreen := l.green
      ledBlue := l.blue }))

/-- What the instance remembers of it. -/
def Instance.look (ins : Instance) : Look :=
  ⟨ins.prevColorRed, ins.prevColorGreen, ins.prevColorBlue,
    ins.prevRumbleWeakMagnitude, ins.prevRumbleStrongMagnitude⟩

def colorAfter (color : Op) : Event DualMagnitudes Op → Op
  | .other op => op
  | _ => color

/-- The color that was asked for last; setup makes it blue. -/
def lastColor (es : List (Event DualMagnitudes Op)) : Op := es.foldl colorAfter ⟨0x00, 0x00, 0x40⟩

/-- The last report shows the color, and what the motors were told; so does the instance. -/
structure Shows (color : Op) (d : RumblePad Instance DualMagnitudes) : Prop where
  look : d.ins.look = ⟨color.r, color.g, color.b, d.playing.getD {}⟩
  sent : d.sent.getLast? = some d.ins.look.report

theorem Shows.of_effect {color : Op} {e : Event DualMagnitudes Op}
    {d d' : RumblePad Instance DualMagnitudes} (h : Shows color d)
    (heffect : RumbleDriver.Effect driver d d' e) (hrumble : ∀ op, e ≠ .other op) :
    Shows color d' := by
  have hlook := h.look
  simp only [Instance.look, Look.mk.injEq] at hlook
  obtain ⟨hred, hgreen, hblue, -⟩ := hlook
  cases heffect with
  | nothing _ ins sent playing =>
    exact ⟨by rw [ins, playing]; exact h.look, by rw [ins, sent]; exact h.sent⟩
  | held _ _ _ ins sent playing =>
    exact ⟨by rw [ins, playing]; exact h.look, by rw [ins, sent]; exact h.sent⟩
  | on _ m _ ins sent playing =>
    refine ⟨?_, ?_⟩
    · rw [ins, playing]
      simp [Instance.look, driver, hred, hgreen, hblue]
    · rw [ins, sent]
      exact List.getLast?_concat
  | off _ ins sent playing =>
    refine ⟨?_, ?_⟩
    · rw [ins, playing]
      simp [Instance.look, driver, hred, hgreen, hblue]
    · rw [ins, sent]
      exact List.getLast?_concat
  | other op => exact absurd rfl (hrumble op)

theorem Shows.step {color : Op} {e : Event DualMagnitudes Op}
    {d d' : RumblePad Instance DualMagnitudes} (h : Shows color d) (htidy : Tidy d)
    (hstep : driver.step d e = some d') : Shows (colorAfter color e) d' := by
  cases e with
  | play | delayedStart | duration =>
    exact h.of_effect (step_effect htidy hstep) fun op hop => by cases hop
  | other op =>
    have hmotors := congrArg Look.motors h.look
    obtain rfl := Option.some.inj hstep
    exact ⟨congrArg (Look.mk op.r op.g op.b) hmotors, List.getLast?_concat⟩

/-- However color changes and rumbles interleave, the last report has the last color and the
motors of the last request, or of none. -/
theorem reports_keep_look {es : List (Event DualMagnitudes Op)}
    {d : RumblePad Instance DualMagnitudes} (h : run driver.step setup es = some d) :
    Follows driver (requests es) d ∧
      d.sent.getLast? = some (Look.report
        ⟨(lastColor es).r, (lastColor es).g, (lastColor es).b, d.playing.getD {}⟩) := by
  have hfollows := Follows.run stopping (fun _ => rfl) (.idle ⟨rfl, rfl⟩ rfl rfl) h
  have hinv := run_invariant (P := fun es d => Tidy d ∧ Shows (lastColor es) d) ?_ ?_ h
  · exact ⟨hfollows, hinv.2.look ▸ hinv.2.sent⟩
  · exact ⟨⟨fun hne => absurd rfl hne, fun hne => absurd rfl hne⟩, rfl, rfl⟩
  · rintro es s e t ⟨htidy, hs⟩ hstep
    refine ⟨htidy.step hstep, ?_⟩
    rw [lastColor, List.foldl_concat]
    exact hs.step htidy hstep

/-- Red, while the pad rumbles. -/
theorem red_while_rumbling :
    ∃ d, run driver.step setup [.play ⟨0, 100, ⟨0x40, 0x80⟩⟩ .success, .other ⟨0xff, 0, 0⟩] =
        some d ∧
      d.sent.getLast? = some (Look.report ⟨0xff, 0, 0, ⟨0x40, 0x80⟩⟩) := by
  refine ⟨_, rfl, ?_⟩
  exact (@reports_keep_look
    [.play ⟨0, 100, ⟨0x40, 0x80⟩⟩ .success, .other ⟨0xff, 0, 0⟩] _ rfl).2

end Ds4

end K2soHead
