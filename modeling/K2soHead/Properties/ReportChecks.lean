import K2soHead.Library.Crc
import K2soHead.Properties.RumblePads

/-!
# The check of the Sony reports

`uni_crc32_le` is the CRC-32 of `Crc`.  A pad that checks the last four bytes of a report takes
every report of the DualShock 4 and the DualSense drivers, and none of them with up to four bytes
in a row changed, wherever they are.
-/

namespace K2soHead

open Faults RumbleDriver

/-! ## The code's CRC -/

theorem lowBit_toBitVec (crc : UInt32) : (crc &&& 1 != 0) = crc.toBitVec.getLsbD 0 := by
  have hbits : (crc &&& 1).toBitVec =
      BitVec.setWidth 32 (BitVec.ofBool (crc.toBitVec.getLsbD 0)) := by
    rw [UInt32.toBitVec_and]
    exact BitVec.and_one_eq_setWidth_ofBool_getLsbD
  cases hlow : crc.toBitVec.getLsbD 0 with
  | false =>
    have hzero : crc &&& 1 = 0 := UInt32.toBitVec_inj.mp (by rw [hbits, hlow]; rfl)
    simp [hzero]
  | true =>
    have hone : crc &&& 1 = 1 := UInt32.toBitVec_inj.mp (by rw [hbits, hlow]; rfl)
    simp [hone]

theorem crcBit_toBitVec (crc : UInt32) :
    (crcBit crc).toBitVec = Crc.shift CRCPOLY.toBitVec crc.toBitVec := by
  unfold crcBit Crc.shift
  simp only [lowBit_toBitVec]
  split <;> simp

theorem uniCrc32Le_toBitVec (crc : UInt32) (data : List UInt8) :
    (uniCrc32Le crc data).toBitVec =
      Crc.crc CRCPOLY.toBitVec crc.toBitVec (data.map UInt8.toBitVec) := by
  induction data generalizing crc with
  | nil => rfl
  | cons byte data ih =>
    have hiterate : ∀ (n : ℕ) (x : UInt32),
        (crcBit^[n] x).toBitVec = (Crc.shift CRCPOLY.toBitVec)^[n] x.toBitVec := by
      intro n x
      induction n generalizing x with
      | zero => rfl
      | succ n ihn => rw [Function.iterate_succ_apply, ihn, crcBit_toBitVec]; rfl
    have hfeed : (crcBit^[8] (crc ^^^ byte.toUInt32)).toBitVec =
        Crc.feed CRCPOLY.toBitVec crc.toBitVec byte.toBitVec := by
      rw [hiterate]
      rfl
    exact (ih _).trans (congrArg (Crc.crc _ · _) hfeed)

/-- The highest bit of the polynomial is set. -/
theorem crcpoly_high : CRCPOLY.toBitVec.getLsbD (32 - 1) = true := by decide

theorem le32_toBitVec (x : UInt32) : (le32 x).map UInt8.toBitVec = Crc.unpack 4 x.toBitVec := by
  simp [le32, Crc.unpack]

/-! ## A pad that checks -/

/-- The last four bytes are the check of the others. -/
def Accepted (bytes : List UInt8) : Prop := ∃ body, bytes = withCrc32 body

theorem Accepted.residue {bytes : List UInt8} (h : Accepted bytes) :
    (uniCrc32Le 0xffffffff bytes).toBitVec =
      (Crc.shift CRCPOLY.toBitVec)^[32] (BitVec.allOnes 32) := by
  obtain ⟨body, rfl⟩ := h
  rw [uniCrc32Le_toBitVec, withCrc32, List.map_append, le32_toBitVec, UInt32.toBitVec_not,
    uniCrc32Le_toBitVec]
  exact Crc.crc_complement (n := 4) (w := 32) (by decide) _ _

/-- Two reports that pass and differ in four bytes in a row at most are the same. -/
theorem Accepted.window_eq {before window other behind : List UInt8}
    (hlength : other.length = window.length) (hshort : window.length ≤ 4)
    (h : Accepted (before ++ window ++ behind)) (hother : Accepted (before ++ other ++ behind)) :
    other = window := by
  have hsame : (uniCrc32Le 0xffffffff (before ++ other ++ behind)).toBitVec =
      (uniCrc32Le 0xffffffff (before ++ window ++ behind)).toBitVec :=
    hother.residue.trans h.residue.symm
  simp only [uniCrc32Le_toBitVec, List.map_append] at hsame
  have hbits := Crc.crc_window crcpoly_high (by simp [hlength]) (by simp; omega) _ _ _ hsame
  exact List.map_injective_iff.mpr (fun _ _ => UInt8.toBitVec_inj.mp) hbits

/-- A report of 79 bytes that passes, and does not with a few bytes in a row changed. -/
def Guarded (report : OutputReport) : Prop :=
  ∃ bytes, report = .intr bytes ∧ bytes.length = 79 ∧ Accepted bytes ∧
    ∀ before window behind other, bytes = before ++ window ++ behind →
      other.length = window.length → window.length ≤ 4 → other ≠ window →
        ¬ Accepted (before ++ other ++ behind)

theorem guarded_withCrc32 {body : List UInt8} (h : body.length = 75) :
    Guarded (.intr (withCrc32 body)) := by
  refine ⟨withCrc32 body, rfl, ?_, ⟨body, rfl⟩, ?_⟩
  · rw [withCrc32, List.length_append, h]
    rfl
  · intro before window behind other hbytes hlength hshort hne hother
    have hwhole : Accepted (before ++ window ++ behind) := ⟨body, hbytes.symm⟩
    exact hne (hwhole.window_eq hlength hshort hother)

/-! ## All the reports of a run -/

variable {σ μ ω : Type} {drv : RumbleDriver σ μ ω}

/-- Every report the driver ever sends has the property. -/
def AllSent (drv : RumbleDriver σ μ ω) (p : OutputReport → Prop) (start : RumblePad σ μ) : Prop :=
  ∀ es d, run drv.step start es = some d → ∀ report ∈ d.sent, p report

theorem allSent_of_reports {p : OutputReport → Prop} {start : RumblePad σ μ} (hstart : Bare start)
    (hsent : ∀ report ∈ start.sent, p report)
    (hon : ∀ m ins, ∀ report ∈ (drv.turnOn m ins).2, p report)
    (hoff : ∀ ins, ∀ report ∈ (drv.turnOff ins).2, p report)
    (hother : ∀ op s ins, ∀ report ∈ (drv.other op s ins).2, p report) : AllSent drv p start := by
  intro es d h
  have hinv := run_invariant (P := fun _ d => Tidy d ∧ ∀ report ∈ d.sent, p report)
    ⟨hstart.tidy, hsent⟩ ?_ h
  · exact hinv.2
  · rintro es s e t ⟨htidy, hs⟩ hstep
    refine ⟨htidy.step hstep, ?_⟩
    cases step_effect htidy hstep with
    | nothing _ _ sent => rwa [sent]
    | held _ _ _ _ sent => rwa [sent]
    | on _ m _ _ sent =>
      rw [sent, List.forall_mem_append]
      exact ⟨hs, hon m _⟩
    | off _ _ sent =>
      rw [sent, List.forall_mem_append]
      exact ⟨hs, hoff _⟩
    | other op state _ sent =>
      rw [sent, List.forall_mem_append]
      exact ⟨hs, hother op state _⟩

theorem Ds4.guarded_sendOutputReport (out : Ds4OutputReport) :
    ∀ report ∈ Ds4.sendOutputReport out, Guarded report := by
  intro report h
  rw [List.mem_singleton.mp h]
  exact guarded_withCrc32 (by simp [Ds4OutputReport.body])

theorem Ds5.guarded_sendOutputReport (out : Ds5OutputReport) (ins : Ds5.Instance) :
    ∀ report ∈ (Ds5.sendOutputReport out ins).2, Guarded report := by
  intro report h
  rw [List.mem_singleton.mp h]
  exact guarded_withCrc32 (by simp [Ds5OutputReport.body])

theorem Ds5.guarded_other (op : Ds5.Op) (ins : Ds5.Instance) :
    ∀ report ∈ (Ds5.other op ins).2, Guarded report := by
  cases op with
  | firmwareVersion => exact fun report h => absurd h List.not_mem_nil
  | setPlayerLeds | setLightbarColor | enableLightbar => exact guarded_sendOutputReport _ _

/-- Every report of every run passes, and no burst of up to four bytes does. -/
theorem sony_reports_guarded (ins : Ds5.Instance) :
    AllSent Ds4.driver Guarded Ds4.setup ∧ AllSent Ds5.driver Guarded { ins := ins } :=
  ⟨allSent_of_reports ⟨rfl, rfl⟩ (Ds4.guarded_sendOutputReport _)
      (fun _ _ => Ds4.guarded_sendOutputReport _) (fun _ => Ds4.guarded_sendOutputReport _)
      (fun _ _ _ => Ds4.guarded_sendOutputReport _),
    allSent_of_reports ⟨rfl, rfl⟩ (fun _ h => absurd h List.not_mem_nil)
      (fun _ _ => Ds5.guarded_sendOutputReport _ _) (fun _ => Ds5.guarded_sendOutputReport _ _)
      (fun op _ => Ds5.guarded_other op)⟩

/-! ## Sequence numbers -/

namespace Ds5

/-- `seq_tag` of a report. -/
def seqTagOf : OutputReport → UInt8
  | .ctrl data | .intr data | .hids _ data => data.getD 2 0

/-- The number of the `k`th report in its tag. -/
def seqTag (k : ℕ) : UInt8 := UInt8.ofNat (k % 15) <<< 4

/-- The reports so far are numbered, and so will the next one be. -/
structure Numbered (ins : Instance) (sent : List OutputReport) : Prop where
  next : ins.outputSeq = UInt8.ofNat (sent.length % 15)
  tags : sent.map seqTagOf = (List.range sent.length).map seqTag

theorem outputSeq_bump {j : ℕ} (hj : j < 15) :
    (if UInt8.ofNat j + 1 = 15 then 0 else UInt8.ofNat j + 1) = UInt8.ofNat ((j + 1) % 15) := by
  revert j
  decide

theorem Numbered.send {ins : Instance} {sent : List OutputReport} (h : Numbered ins sent)
    (out : Ds5OutputReport) :
    Numbered (sendOutputReport out ins).1 (sent ++ (sendOutputReport out ins).2) := by
  have hlength : (sent ++ (sendOutputReport out ins).2).length = sent.length + 1 :=
    List.length_append
  constructor
  · rw [hlength, ← Nat.mod_add_mod, ← outputSeq_bump (Nat.mod_lt _ (by decide)), ← h.next]
    rfl
  · rw [hlength, List.range_succ, List.map_append, List.map_append, h.tags]
    refine congrArg (_ ++ [·]) ?_
    rw [seqTag, ← h.next]
    rfl

theorem Numbered.other {ins : Instance} {sent : List OutputReport} (h : Numbered ins sent)
    (op : Op) : Numbered (Ds5.other op ins).1 (sent ++ (Ds5.other op ins).2) := by
  cases op with
  | firmwareVersion useVibration2 =>
    rw [Ds5.other, List.append_nil]
    exact ⟨h.next, h.tags⟩
  | setPlayerLeds | setLightbarColor | enableLightbar => exact h.send _

/-- Whatever they are for, the reports of a run are numbered from 0 to 14 and over again. -/
theorem reports_numbered (useVibration2 : Bool) (es : List (Event DualMagnitudes Op)) :
    ∃ d, run driver.step { ins := { useVibration2 := useVibration2 } } es = some d ∧
      d.sent.map seqTagOf = (List.range d.sent.length).map seqTag := by
  obtain ⟨d, hrun, -⟩ := exists_run { useVibration2 := useVibration2 } es
  have hinv := run_invariant (P := fun _ d => Tidy d ∧ Numbered d.ins d.sent)
    ⟨⟨fun hne => absurd rfl hne, fun hne => absurd rfl hne⟩, rfl, rfl⟩ ?_ hrun
  · exact ⟨d, hrun, hinv.2.tags⟩
  · rintro es s e t ⟨htidy, hs⟩ hstep
    refine ⟨htidy.step hstep, ?_⟩
    cases step_effect htidy hstep with
    | nothing _ ins sent =>
      rw [ins, sent]
      exact hs
    | held _ _ _ ins sent =>
      rw [ins, sent]
      exact ⟨hs.next, hs.tags⟩
    | on _ m _ ins sent =>
      rw [ins, sent]
      exact hs.send _
    | off _ ins sent =>
      rw [ins, sent]
      exact hs.send _
    | other op state ins sent =>
      rw [ins, sent]
      exact hs.other op

end Ds5

end K2soHead
