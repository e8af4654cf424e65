import Mathlib.Data.List.Basic

/-!
# Texts of fixed-width records

A reader takes one record at a time, hands it on, and moves by the width whether the record
filled it or not.  It stops at the end of the text, or at a record it cannot read.
-/

namespace K2soHead.Records

variable {α β σ : Type*}

/-- At most `n` records of the text, handed on to `put`. -/
def read (width : ℕ) (decode : List α → Option β) (put : σ → β → σ) : ℕ → List α → σ → σ
  | 0, _, s => s
  | _ + 1, [], s => s
  | n + 1, c :: text, s =>
      match decode (c :: text) with
      | none => s
      | some b => read width decode put n ((c :: text).drop width) (put s b)

variable {width : ℕ} {decode : List α → Option β} {put : σ → β → σ} {encode : β → List α}

/-- A text of records is read back, up to the number of records asked for. -/
theorem read_flatMap (hpos : 0 < width) (hwidth : ∀ b, (encode b).length = width)
    (hdecode : ∀ b rest, decode (encode b ++ rest) = some b) (n : ℕ) (bs : List β) (s : σ) :
    read width decode put n (bs.flatMap encode) s = (bs.take n).foldl put s := by
  induction n generalizing bs s with
  | zero => rfl
  | succ n ih =>
    cases bs with
    | nil => rfl
    | cons b bs =>
      have hdrop : (encode b ++ bs.flatMap encode).drop width = bs.flatMap encode := by
        rw [← hwidth b, List.drop_left]
      have hsome := hdecode b (bs.flatMap encode)
      rw [List.flatMap_cons, List.take_succ_cons, List.foldl_cons, ← ih]
      cases htext : encode b ++ bs.flatMap encode with
      | nil =>
        have hnone := congrArg List.length htext
        rw [List.length_append, hwidth, List.length_nil] at hnone
        omega
      | cons c text =>
        rw [htext] at hsome hdrop
        rw [read, hsome, hdrop]

theorem length_flatMap_of_width (hwidth : ∀ b, (encode b).length = width) (bs : List β) :
    (bs.flatMap encode).length = width * bs.length := by
  induction bs with
  | nil => rfl
  | cons b bs ih =>
    rw [List.flatMap_cons, List.length_append, ih, hwidth, List.length_cons, Nat.mul_succ,
      Nat.add_comm]

end K2soHead.Records
