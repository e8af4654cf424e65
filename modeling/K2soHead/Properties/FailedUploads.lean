import K2soHead.Library.Latches
import K2soHead.Library.Runs
import K2soHead.Properties.LedStrips
import K2soHead.Properties.LoopFrames

/-!
# What a failed upload leaves behind

An upload that fails is the callback for its start, some for its progress, and one for the
error.  The first parks the lights and the second moves a static latch, and the error
callback undoes neither.

- `fail_eq`: everything one failed upload writes
- `exists_distinguishing`: two latches that a progress report told apart are told apart by
  the next upload too
-/

namespace K2soHead

open Latches Runs

/-- An upload that fails: the (done, total) pairs of its progress, and the error. -/
structure FailedUpload where
  progress : List (UInt32 × UInt32)
  code : ℕ

namespace FailedUpload

def events (u : FailedUpload) : List OtaEvent :=
  .start :: (u.progress.map fun p => .progress p.1 p.2) ++ [.error u.code]

/-- The upload had it failed after `n` progress callbacks. -/
def upTo (n : ℕ) (u : FailedUpload) : FailedUpload := { u with progress := u.progress.take n }

end FailedUpload

namespace OtaService

/-- The percentage `onProgress` computes, in 32-bit arithmetic. -/
def percent (done total : UInt32) : UInt32 := if total ≠ 0 then done * 100 / total else 0

/-- The test `onProgress` makes before it prints. -/
def Due (lastPct pct : UInt32) : Prop := pct ≥ lastPct + 10 ∨ pct = 100

instance : DecidableRel Due := fun _ _ => inferInstanceAs (Decidable (_ ∨ _))

def percentages (u : FailedUpload) : List UInt32 := u.progress.map fun p => percent p.1 p.2

/-- One failed upload, after which `handle` returns to `loop()`. -/
def fail (h : Head) (u : FailedUpload) : Head := handle u.events h

/-- The percentages printed during one failed upload. -/
def reported (h : Head) (u : FailedUpload) : List UInt32 :=
  (fail h u).ota.printed.drop h.ota.printed.length

/-- Everything the claim about a failed upload compares. -/
structure SameHead (h h' : Head) : Prop where
  brightness : h'.led.sGlobalBrightness = h.led.sGlobalBrightness
  dims : h'.led.sStripDim = h.led.sStripDim
  blinkLevel : h'.led.sBlinkLevel = h.led.sBlinkLevel
  beforeOff : h'.sketch.sBrightnessBeforeOff = h.sketch.sBrightnessBeforeOff
  idle : h'.motion.sIdleEnabled = h.motion.sIdleEnabled
  effect : h'.lights.sEffect = h.lights.sEffect

/-- The upload leaves the head as it was, and how far it got makes no difference to what any
later upload reports. -/
structure LeavesNoTrace (h : Head) (u : FailedUpload) : Prop where
  same : SameHead h (fail h u)
  reporting : ∀ n m later, reported (fail h (u.upTo n)) later = reported (fail h (u.upTo m)) later

/-! ## One failed upload -/

theorem onStart_eq (l : LedController) :
    ∃ strips pushed, onStart l =
      { l with sGlobalBrightness := 0, sStrips := strips, pushed := pushed } := by
  rw [onStart, LedController.setBrightness_eq, LedController.clearAll_eq,
    LedController.showAll_eq]
  exact ⟨_, _, rfl⟩

theorem onProgress_eq (done total : UInt32) (o : OtaProgress) :
    onProgress done total o =
      { lastPct := latch Due o.lastPct [percent done total]
        printed := o.printed ++ reports Due o.lastPct [percent done total] } := by
  have hpercent : (if total ≠ 0 then done * 100 / total else 0) = percent done total := rfl
  simp only [onProgress, hpercent, latch, reports]
  by_cases hdue : Due o.lastPct (percent done total)
  · have htest : percent done total ≥ o.lastPct + 10 ∨ percent done total = 100 := hdue
    simp only [if_pos htest, if_pos hdue]
  · have htest : ¬ (percent done total ≥ o.lastPct + 10 ∨ percent done total = 100) := hdue
    simp only [if_neg htest, if_neg hdue, List.append_nil]

/-- The progress callbacks of one upload. -/
theorem foldl_progress (progress : List (UInt32 × UInt32)) (h : Head) :
    (progress.map fun p => OtaEvent.progress p.1 p.2).foldl event h =
      { h with
        ota :=
          { lastPct := latch Due h.ota.lastPct (progress.map fun p => percent p.1 p.2)
            printed := h.ota.printed ++
              reports Due h.ota.lastPct (progress.map fun p => percent p.1 p.2) } } := by
  induction progress generalizing h with
  | nil => simp [latch, reports]
  | cons p progress ih =>
    rw [List.map_cons, List.foldl_cons, ih, List.map_cons, ← List.singleton_append,
      latch_append, reports_append]
    simp only [event, onProgress_eq, List.append_assoc]

theorem fail_eq {h : Head} (hrunning : h.services.otaRunning = true) (u : FailedUpload) :
    fail h u =
      { h with
        led := onStart h.led
        ota :=
          { lastPct := latch Due h.ota.lastPct (percentages u)
            printed := h.ota.printed ++ reports Due h.ota.lastPct (percentages u) } } := by
  rw [fail, handle, if_pos hrunning, FailedUpload.events, List.cons_append, List.foldl_cons,
    List.foldl_append, foldl_progress]
  rfl

theorem reported_eq {h : Head} (hrunning : h.services.otaRunning = true) (u : FailedUpload) :
    reported h u = reports Due h.ota.lastPct (percentages u) := by
  rw [reported, fail_eq hrunning]
  exact List.drop_left

/-- Of the six fields only the brightness is written, and always to 0. -/
theorem sameHead_fail_iff {h : Head} (hrunning : h.services.otaRunning = true)
    (u : FailedUpload) : SameHead h (fail h u) ↔ h.led.sGlobalBrightness = 0 := by
  obtain ⟨strips, pushed, hstart⟩ := onStart_eq h.led
  rw [fail_eq hrunning, hstart]
  exact ⟨fun hsame => hsame.brightness.symm, fun hzero => ⟨hzero.symm, rfl, rfl, rfl, rfl, rfl⟩⟩

/-! ## Telling two latches apart -/

/-- An upload of 100 bytes shows its progress as it is. -/
theorem percent_of_hundred {q : UInt32} (hq : q.toNat ≤ 110) : percent q 100 = q := by
  have htotal : (100 : UInt32).toNat = 100 := rfl
  rw [percent, if_pos (by decide), ← UInt32.toNat_inj, UInt32.toNat_div, UInt32.toNat_mul, htotal,
    Nat.mod_eq_of_lt (by omega), Nat.mul_div_cancel _ (by omega)]

theorem due_iff (l q : UInt32) :
    Due l q ↔ (l.toNat + 10) % 2 ^ 32 ≤ q.toNat ∨ q.toNat = 100 := by
  have hten : (l + 10).toNat = (l.toNat + 10) % 2 ^ 32 := UInt32.toNat_add l 10
  have hhundred : q = 100 ↔ q.toNat = 100 := UInt32.toNat_inj.symm
  rw [Due, ge_iff_le, UInt32.le_iff_toNat_le, hten, hhundred]

/-- If a percentage moves the latch, some progress callback is reported by exactly one of the
old and the new latch. -/
theorem exists_distinguishing {l done total : UInt32} (hdue : Due l (percent done total))
    (hne : percent done total ≠ l) :
    ∃ done' total', ¬ (Due l (percent done' total') ↔
      Due (percent done total) (percent done' total')) := by
  have hofNat : ∀ n ≤ 110, (UInt32.ofNat n).toNat = n := by
    intro n hn
    rw [UInt32.toNat_ofNat', Nat.mod_eq_of_lt (by omega)]
  -- a percentage up to 110 can be had as it is
  have hsmall : ∀ n ≤ 110, ¬ (Due l (UInt32.ofNat n) ↔ Due (percent done total) (UInt32.ofNat n)) →
      ∃ done' total', ¬ (Due l (percent done' total') ↔
        Due (percent done total) (percent done' total')) := by
    intro n hn htold
    have hshown : percent (UInt32.ofNat n) 100 = UInt32.ofNat n :=
      percent_of_hundred ((hofNat n hn).trans_le hn)
    exact ⟨UInt32.ofNat n, 100, by rwa [hshown]⟩
  have hsame : ¬ (Due l (percent done total) ↔ Due (percent done total) (percent done total)) →
      ∃ done' total', ¬ (Due l (percent done' total') ↔
        Due (percent done total) (percent done' total')) :=
    fun htold => ⟨done, total, htold⟩
  have hl := l.toNat_lt
  have hp := (percent done total).toNat_lt
  rw [Ne, ← UInt32.toNat_inj] at hne
  generalize percent done total = p at *
  rw [due_iff] at hdue
  by_cases hhundred : p.toNat = 100
  · -- the new latch reports from 110 on, and 100 itself
    rcases Nat.lt_trichotomy ((l.toNat + 10) % 2 ^ 32) 110 with hlow | hequal | hhigh
    · by_cases hgap : (l.toNat + 10) % 2 ^ 32 = 100
      · refine hsmall 101 (by omega) ?_
        rw [due_iff, due_iff, hofNat 101 (by omega)]
        omega
      · refine hsmall ((l.toNat + 10) % 2 ^ 32) (by omega) ?_
        rw [due_iff, due_iff, hofNat _ (by omega)]
        omega
    · omega
    · refine hsmall 110 (by omega) ?_
      rw [due_iff, due_iff, hofNat 110 (by omega)]
      omega
  · by_cases hwraps : p.toNat + 10 < 2 ^ 32
    · -- the same percentage again is not 10 above itself
      refine hsame ?_
      rw [due_iff, due_iff]
      omega
    · -- the new threshold has wrapped round to less than 10
      rcases Nat.lt_or_ge ((l.toNat + 10) % 2 ^ 32) ((p.toNat + 10) % 2 ^ 32) with hbelow | habove
      · refine hsmall ((l.toNat + 10) % 2 ^ 32) (by omega) ?_
        rw [due_iff, due_iff, hofNat _ (by omega)]
        omega
      · refine hsmall ((p.toNat + 10) % 2 ^ 32) (by omega) ?_
        rw [due_iff, due_iff, hofNat _ (by omega)]
        omega

/-- One callback is reported alike behind two latches only if it is due behind both or none. -/
theorem due_iff_of_reports_eq {l l' done total : UInt32} {code : ℕ}
    (hreports : reports Due l (percentages ⟨[(done, total)], code⟩) =
      reports Due l' (percentages ⟨[(done, total)], code⟩)) :
    Due l (percent done total) ↔ Due l' (percent done total) := by
  have hsingle : ∀ l, (reports Due l (percentages ⟨[(done, total)], code⟩)).length =
      if Due l (percent done total) then 1 else 0 := by
    intro l
    simp only [percentages, List.map_cons, List.map_nil, reports]
    split <;> rfl
  have hlength := congrArg List.length hreports
  rw [hsingle, hsingle] at hlength
  by_cases hdue : Due l (percent done total) <;> by_cases hdue' : Due l' (percent done total) <;>
    simp_all

/-- How far an upload got makes no difference to later reports exactly if no percentage but
the one latched already was due. -/
theorem reporting_iff {h : Head} (hrunning : h.services.otaRunning = true) (u : FailedUpload) :
    (∀ n m later, reported (fail h (u.upTo n)) later = reported (fail h (u.upTo m)) later) ↔
      Quiet Due h.ota.lastPct (percentages u) := by
  have hlater : ∀ n later, reported (fail h (u.upTo n)) later =
      reports Due (latch Due h.ota.lastPct ((percentages u).take n)) (percentages later) := by
    intro n later
    have hstill : (fail h (u.upTo n)).services.otaRunning = true := by
      rw [fail_eq hrunning]
      exact hrunning
    have hpercentages : percentages (u.upTo n) = (percentages u).take n := List.map_take
    rw [reported_eq hstill, fail_eq hrunning, hpercentages]
  constructor
  · intro hsame
    by_contra hmoved
    obtain ⟨n, x, hx, hdue, hne, hlatch⟩ := exists_latch_take hmoved
    obtain ⟨⟨done, total⟩, -, rfl⟩ := List.mem_map.mp hx
    obtain ⟨done', total', htold⟩ := exists_distinguishing hdue hne
    -- one more callback shows whether the upload got that far
    have hreports := hsame 0 n ⟨[(done', total')], 0⟩
    rw [hlater, hlater, hlatch] at hreports
    exact htold (due_iff_of_reports_eq hreports)
  · intro hquiet n m later
    rw [hlater, hlater, (hquiet.take n).latch_eq, (hquiet.take m).latch_eq]

/-! ## Uploads in a row -/

theorem leavesNoTrace_iff {h : Head} (hrunning : h.services.otaRunning = true)
    (u : FailedUpload) :
    LeavesNoTrace h u ↔ h.led.sGlobalBrightness = 0 ∧ Quiet Due h.ota.lastPct (percentages u) := by
  rw [← sameHead_fail_iff hrunning u, ← reporting_iff hrunning u]
  exact ⟨fun h => ⟨h.same, h.reporting⟩, fun h => ⟨h.1, h.2⟩⟩

/-- However many uploads fail in a row, each of them leaves no trace if and only if the lights
were off before the first one and none of them had anything new to report. -/
theorem failed_uploads_leave_no_trace_iff {h : Head} (hrunning : h.services.otaRunning = true)
    (uploads : List FailedUpload) :
    Along fail LeavesNoTrace h uploads ↔
      ∀ u ∈ uploads, h.led.sGlobalBrightness = 0 ∧ Quiet Due h.ota.lastPct (percentages u) := by
  induction uploads generalizing h with
  | nil => simp
  | cons u uploads ih =>
    rw [along_cons, leavesNoTrace_iff hrunning, List.forall_mem_cons]
    refine and_congr_right fun ⟨hdark, hquiet⟩ => ?_
    -- such an upload leaves brightness and latch to the next one as it found them
    have hstill : (fail h u).services.otaRunning = true := by
      rw [fail_eq hrunning]
      exact hrunning
    have hbrightness : (fail h u).led.sGlobalBrightness = h.led.sGlobalBrightness :=
      ((sameHead_fail_iff hrunning u).mpr hdark).brightness
    have hlatch : (fail h u).ota.lastPct = h.ota.lastPct := by
      rw [fail_eq hrunning]
      exact hquiet.latch_eq
    rw [ih hstill, hbrightness, hlatch]

/-- The head as it comes out of `setup()`, with the access point switched on. -/
def servingHead : Head :=
  let h := Sketch.setup (esp32DevKitC fun _ => 0) 0 lowestRearm
  { h with services := Sketch.toggleAP true h.services }

/-- With the lights off, two uploads that fail before they have anything to report. -/
theorem early_failures_in_the_dark :
    let h := { servingHead with led := servingHead.led.setBrightness 0 }
    Along fail LeavesNoTrace h [⟨[(5, 100)], 1⟩, ⟨[], 2⟩] := by
  intro h
  refine (failed_uploads_leave_no_trace_iff (by decide) _).mpr ?_
  have hearly : Due 0 5 → (5 : UInt32) = 0 := by decide
  have hquiet : Quiet Due 0 [5] := List.forall_mem_singleton.mpr hearly
  simp only [List.forall_mem_cons, List.not_mem_nil, false_implies, implies_true, and_true]
  exact ⟨⟨rfl, hquiet⟩, rfl, fun x hx => absurd hx List.not_mem_nil⟩

/-- The first upload fails at 50 percent: the lights stay off, and 20 percent of the next one,
which would have been reported before, is not. -/
theorem lights_parked_and_progress_lost :
    let first : FailedUpload := ⟨[(50, 100)], 1⟩
    let next : FailedUpload := ⟨[(20, 100)], 1⟩
    servingHead.led.sGlobalBrightness = 200 ∧
      (fail servingHead first).led.sGlobalBrightness = 0 ∧
      reported servingHead next = [20] ∧ reported (fail servingHead first) next = [] ∧
      ¬ ∀ (h : Head) uploads, h.services.otaRunning = true →
        Along fail LeavesNoTrace h uploads := by
  intro first next
  have hrunning : servingHead.services.otaRunning = true := by decide
  have hlit : servingHead.led.sGlobalBrightness = 200 := by decide
  refine ⟨hlit, by decide, by decide, by decide, fun hclaim => ?_⟩
  obtain ⟨hfirst, -⟩ := hclaim servingHead [first] hrunning
  have hdark := ((leavesNoTrace_iff hrunning first).mp hfirst).1
  rw [hlit] at hdark
  exact absurd hdark (by decide)

end OtaService

end K2soHead
