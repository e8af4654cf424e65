import K2soHead.Library.Runs
import K2soHead.Properties.AllowlistText

/-!
# The allowlist survives a reset

Boot adds the stored addresses one by one, and each of them is stored again at once.  So the
list in flash is cut down to its first entry when boot begins, and grows back to what it was.
-/

namespace K2soHead

open Runs

namespace Allowlist

/-- The addresses in the list. -/
def entries (a : Allowlist) : List BdAddr := Slots.entries 0 a.addrAllowList

/-- The text in flash is that of the addresses `xs`. -/
structure Stores (p : AllowlistProperties) (xs : List BdAddr) : Prop where
  text : p.list.getD [] = xs.flatMap record
  nodup : xs.Nodup
  nonzero : 0 ∉ xs
  room : xs.length ≤ MAX_ALLOWLIST

theorem length_text (xs : List BdAddr) : (xs.flatMap record).length = 18 * xs.length :=
  Records.length_flatMap_of_width length_record xs

section

variable {a : Allowlist} {p : AllowlistProperties} {xs ys : List BdAddr}

theorem listText_pack (hnonzero : 0 ∉ xs) (hroom : xs.length ≤ MAX_ALLOWLIST) :
    listText (Slots.pack MAX_ALLOWLIST 0 xs) = xs.flatMap record := by
  rw [listText, Slots.entries_pack hnonzero hroom]

theorem isAddressInAllowlist_iff (addr : BdAddr) :
    a.isAddressInAllowlist addr = true ↔ ∃ i, a.addrAllowList i = addr := by
  rw [isAddressInAllowlist, List.any_eq_true]
  simp [eq_comm]

/-! ## Boot -/

/-- One address goes behind those that are back. -/
theorem addAddr_pack {addr : BdAddr}
    (htable : a.addrAllowList = Slots.pack MAX_ALLOWLIST 0 ys) (hnonzero : 0 ∉ ys ++ [addr])
    (hnodup : (ys ++ [addr]).Nodup) (hroom : (ys ++ [addr]).length ≤ MAX_ALLOWLIST) :
    (a.addAddr addr).1 =
      { a with
        addrAllowList := Slots.pack MAX_ALLOWLIST 0 (ys ++ [addr])
        properties := { a.properties with list := some ((ys ++ [addr]).flatMap record) } } := by
  have hys : 0 ∉ ys := fun h => hnonzero (List.mem_append_left _ h)
  have haddr : addr ≠ 0 := by
    rintro rfl
    exact hnonzero (by simp)
  have hfits : ys.length < MAX_ALLOWLIST := by
    rw [List.length_append, List.length_singleton] at hroom
    omega
  have hnew : ¬ a.isAddressInAllowlist addr = true := by
    rw [isAddressInAllowlist_iff, htable]
    intro hfound
    have hmem : addr ∈ Slots.entries 0 (Slots.pack MAX_ALLOWLIST 0 ys) :=
      Slots.mem_entries.mpr ⟨haddr, hfound⟩
    rw [Slots.entries_pack hys hfits.le] at hmem
    rw [List.nodup_append] at hnodup
    exact hnodup.2.2 addr hmem addr (List.mem_singleton_self addr) rfl
  rw [addAddr, if_neg hnew, htable, Slots.first_blank_pack hys hfits]
  simp only [updateAllowlistToProperty]
  rw [Slots.update_pack hfits, listText_pack hnonzero hroom]

/-- The addresses come back in the order of the text, and after each the text is written. -/
theorem foldl_addAddr (zs : List BdAddr) (htable : a.addrAllowList = Slots.pack MAX_ALLOWLIST 0 ys)
    (hnonzero : 0 ∉ ys ++ zs) (hnodup : (ys ++ zs).Nodup)
    (hroom : (ys ++ zs).length ≤ MAX_ALLOWLIST) :
    zs.foldl (fun a addr => (addAddr addr a).1) a =
      { a with
        addrAllowList := Slots.pack MAX_ALLOWLIST 0 (ys ++ zs)
        properties := if zs = [] then a.properties else
          { a.properties with list := some ((ys ++ zs).flatMap record) } } := by
  induction zs generalizing a ys with
  | nil => rw [List.append_nil, ← htable, List.foldl_nil, if_pos rfl]
  | cons addr zs ih =>
    have hassoc : ys ++ addr :: zs = (ys ++ [addr]) ++ zs := by
      rw [List.append_assoc, List.singleton_append]
    rw [hassoc] at hnonzero hnodup hroom
    have hadd := addAddr_pack htable (fun h => hnonzero (List.mem_append_left _ h))
      (List.nodup_append.mp hnodup).1 (by rw [List.length_append] at hroom; omega)
    rw [List.foldl_cons, hadd, ih rfl hnonzero hnodup hroom, hassoc, if_neg (List.cons_ne_nil _ _)]
    cases zs with
    | nil => simp
    | cons _ _ => rw [if_neg (List.cons_ne_nil _ _)]

/-- Boot up to the `n`-th address: the first `n` are back, and only they are stored; if it
got to none, the text is as it was. -/
theorem initUpTo_eq (h : Stores p xs) (n : ℕ) :
    { properties := p : Allowlist }.initUpTo n =
      { addrAllowList := Slots.pack MAX_ALLOWLIST 0 (xs.take n)
        enforced := p.enabled.getD 0 != 0
        properties := if xs.take n = [] then p else
          { p with list := some ((xs.take n).flatMap record) } } := by
  have hblank : (fun _ => 0 : Fin MAX_ALLOWLIST → BdAddr) = Slots.pack MAX_ALLOWLIST 0 [] := rfl
  cases hlist : p.list with
  | none =>
    -- nothing was ever written
    have hempty : xs = [] := by
      have htext := congrArg List.length h.text
      rw [hlist, Option.getD_none, length_text] at htext
      exact List.length_eq_zero_iff.mp (by simpa using htext.symm)
    subst hempty
    simp [initUpTo, updateAllowlistFromProperty, listProperty, hlist]
    exact hblank
  | some text =>
    have htext : text = xs.flatMap record := by
      have hstored := h.text
      rwa [hlist, Option.getD_some] at hstored
    -- a full list with its final zero is shorter than the buffer it is read into
    have hfits : text.length + 1 ≤ PROPERTY_STRING_MAX_LEN - 1 := by
      have hroom := h.room
      rw [MAX_ALLOWLIST] at hroom
      rw [htext, length_text, PROPERTY_STRING_MAX_LEN]
      omega
    have hread : ∀ a : Allowlist, a.properties = p → a.listProperty = some text := by
      intro a ha
      rw [listProperty, ha, hlist, Option.filter_some, if_pos (by simpa using hfits)]
    rw [initUpTo, updateAllowlistFromProperty, hread _ rfl]
    simp only
    rw [htext, Records.read_flatMap (by decide) length_record sscanfBdAddr_record,
      foldl_addAddr (xs.take n) hblank]
    · rfl
    · exact fun hmem => h.nonzero (List.mem_of_mem_take hmem)
    · exact h.nodup.sublist (List.take_sublist n xs)
    · exact (List.length_take_le' n xs).trans h.room

/-! ## What is kept -/

/-- The memory and the flash agree. -/
structure Kept (a : Allowlist) : Prop where
  /-- no address is in the list twice -/
  distinct : Slots.Distinct 0 a.addrAllowList
  list : a.properties.list.getD [] = listText a.addrAllowList
  enabled : a.enforced = (a.properties.enabled.getD 0 != 0)

theorem Kept.stores (h : a.Kept) : Stores a.properties a.entries where
  text := h.list
  nodup := h.distinct.nodup_entries
  nonzero hmem := (Slots.mem_entries.mp hmem).1 rfl
  room := Slots.length_entries_le _

/-- After boot, up to wherever it got, the list is the first entries of what was stored. -/
theorem entries_initUpTo (h : Stores p xs) (n : ℕ) :
    ({ properties := p : Allowlist }.initUpTo n).entries = xs.take n := by
  rw [initUpTo_eq h, entries]
  exact Slots.entries_pack (fun hmem => h.nonzero (List.mem_of_mem_take hmem))
    ((List.length_take_le' n xs).trans h.room)

theorem distinct_pack (hnodup : xs.Nodup) :
    Slots.Distinct 0 (Slots.pack MAX_ALLOWLIST (0 : BdAddr) xs) := by
  intro i j hij hne
  have hlt : ∀ k : Fin MAX_ALLOWLIST, Slots.pack MAX_ALLOWLIST (0 : BdAddr) xs k ≠ 0 →
      k.val < xs.length := by
    intro k hk
    by_contra hle
    exact hk (Slots.pack_of_le (Nat.not_lt.mp hle))
  have hi := hlt i hne
  have hj := hlt j (hij ▸ hne)
  rw [Slots.pack_of_lt hi, Slots.pack_of_lt hj] at hij
  exact Fin.ext ((hnodup.getElem_inj_iff).mp hij)

/-- A boot that runs through restores the list and keeps the flash as it was. -/
theorem kept_boot (h : Stores p xs) {n : ℕ} (hn : xs.length ≤ n) :
    ({ properties := p : Allowlist }.initUpTo n).Kept := by
  rw [initUpTo_eq h, List.take_of_length_le hn]
  refine ⟨distinct_pack h.nodup, ?_, ?_⟩
  · rw [listText_pack h.nonzero h.room]
    split
    · exact h.text
    · rfl
  · simp only
    split <;> rfl

/-- The bound `reboot` puts on the number of addresses is never reached. -/
theorem length_le_text (h : Stores a.properties xs) :
    xs.length ≤ (a.listProperty.getD []).length := by
  have hroom := h.room
  rw [MAX_ALLOWLIST] at hroom
  have hlength := congrArg List.length h.text
  rw [length_text] at hlength
  rw [listProperty]
  cases hlist : a.properties.list with
  | none =>
    rw [hlist, Option.getD_none, List.length_nil] at hlength
    omega
  | some text =>
    rw [hlist, Option.getD_some] at hlength
    rw [Option.filter_some, if_pos, Option.getD_some]
    · omega
    · rw [decide_eq_true_eq, PROPERTY_STRING_MAX_LEN]
      omega

theorem reboot_of_stores (h : Stores a.properties xs) :
    a.reboot.Kept ∧ a.reboot.entries = xs := by
  have hn := length_le_text h
  refine ⟨kept_boot h hn, ?_⟩
  rw [reboot, entries_initUpTo h, List.take_of_length_le hn]

/-- What is in flash when the power fails during boot. -/
theorem stores_cutBoot (h : Stores a.properties xs) (n : ℕ) :
    Stores (a.cutBoot n).properties (if n = 0 then xs else xs.take n) := by
  rw [cutBoot, initUpTo_eq h]
  simp only
  by_cases hn : n = 0
  · subst hn
    rw [List.take_zero, if_pos rfl, if_pos rfl]
    exact h
  · rw [if_neg hn]
    split
    · rename_i hnone
      have hempty : xs = [] := (List.take_eq_nil_iff.mp hnone).resolve_left hn
      rw [hnone, ← hempty]
      exact h
    · exact ⟨rfl, h.nodup.sublist (List.take_sublist n xs),
        fun hmem => h.nonzero (List.mem_of_mem_take hmem),
        (List.length_take_le' n xs).trans h.room⟩

theorem Kept.write (h : a.Kept) {table : Fin MAX_ALLOWLIST → BdAddr}
    (hdistinct : Slots.Distinct 0 table) :
    (updateAllowlistToProperty { a with addrAllowList := table }).Kept :=
  ⟨hdistinct, rfl, h.enabled⟩

theorem kept_step (a : Allowlist) (e : Event) (h : a.Kept) : (a.step e).Kept := by
  cases e with
  | add addr =>
    simp only [step, addAddr]
    split
    · exact h
    · rename_i hnew
      split
      · exact h
      · refine h.write (h.distinct.update (fun i hi => hnew ?_) _)
        exact (isAddressInAllowlist_iff addr).mpr ⟨i, hi⟩
  | remove addr =>
    simp only [step, removeAddr]
    split
    · exact h
    · exact h.write (h.distinct.clear _)
  | removeAll => exact h.write fun i j _ hne => absurd rfl hne
  | setEnabled enabled =>
    simp only [step, setEnabled]
    split
    · exact h
    · refine ⟨h.distinct, h.list, ?_⟩
      cases enabled <;> rfl
  | reboot => exact (reboot_of_stores h.stores).1
  | cutBoot n => exact (reboot_of_stores (stores_cutBoot h.stores n)).1

theorem kept_run (es : List Event) : (run step {} es).Kept := by
  have hstart : ({} : Allowlist).Kept := by
    refine ⟨fun i j _ hne => absurd rfl hne, ?_, rfl⟩
    have hnone : Slots.entries 0 (fun _ => 0 : Fin MAX_ALLOWLIST → BdAddr) = [] := by decide
    rw [listText, hnone]
    rfl
  exact inv_run kept_step hstart es

end

/-! ## Every run -/

/-- In every reachable state a reset changes nothing: the same addresses are in the list, in
the same order, and the same ones are allowed. -/
theorem reboot_keeps (es : List Event) :
    let a := run step {} es
    a.reboot.entries = a.entries ∧ ∀ addr, a.reboot.isAllowedAddr addr = a.isAllowedAddr addr := by
  have h := kept_run es
  simp only
  generalize run step {} es = a at h ⊢
  obtain ⟨hkept, hentries⟩ := reboot_of_stores h.stores
  have henforced : a.reboot.enforced = a.enforced := by
    rw [reboot, initUpTo_eq h.stores, h.enabled]
  refine ⟨hentries, fun addr => ?_⟩
  have hmembers : a.reboot.isAddressInAllowlist addr = a.isAddressInAllowlist addr := by
    rw [Bool.eq_iff_iff, isAddressInAllowlist_iff, isAddressInAllowlist_iff]
    exact Slots.exists_congr_of_entries hentries addr
  rw [isAllowedAddr, isAllowedAddr, henforced, hmembers]

/-- In every reachable state, a power failure while boot has `n` addresses back costs the ones
behind them for good; before the first, it costs nothing. -/
theorem cut_boot_forgets (es : List Event) (n : ℕ) :
    let a := run step {} es
    (a.cutBoot n).reboot.entries = if n = 0 then a.entries else a.entries.take n :=
  (reboot_of_stores (stores_cutBoot (kept_run es).stores n)).2

/-- In every reachable state the list is a set of at most four addresses: `add` inserts unless
the list is full or the address is zero, and `remove` takes the address out altogether. -/
theorem list_is_set (es : List Event) (addr x : BdAddr) :
    let a := run step {} es
    (x ∈ (a.addAddr addr).1.entries ↔
        x ∈ a.entries ∨ x = addr ∧ addr ≠ 0 ∧ a.entries.length < MAX_ALLOWLIST) ∧
      (x ∈ (a.removeAddr addr).1.entries ↔ x ∈ a.entries ∧ x ≠ addr) := by
  have h := kept_run es
  simp only
  generalize run step {} es = a at h ⊢
  constructor
  · unfold addAddr
    split
    · rename_i hfound
      rw [isAddressInAllowlist_iff] at hfound
      refine ⟨.inl, fun hx => hx.elim id ?_⟩
      rintro ⟨rfl, hne, -⟩
      exact Slots.mem_entries.mpr ⟨hne, hfound⟩
    · split
      · rename_i hfull
        have hblank : ¬ a.entries.length < MAX_ALLOWLIST := by
          rw [entries, ← Slots.exists_blank_iff, not_exists]
          exact Slots.first_eq_none.mp hfull
        exact ⟨.inl, fun hx => hx.elim id fun hnew => absurd hnew.2.2 hblank⟩
      · rename_i i hfree
        have hfree := Slots.first_eq_some hfree
        have hroom : a.entries.length < MAX_ALLOWLIST := Slots.exists_blank_iff.mp ⟨i, hfree⟩
        refine (Slots.mem_entries_put hfree).trans (or_congr_right ?_)
        exact and_congr_right fun _ => (and_iff_left hroom).symm
  · unfold removeAddr
    split
    · rename_i hnone
      refine ⟨fun hx => ⟨hx, ?_⟩, And.left⟩
      rintro rfl
      obtain ⟨-, i, hi⟩ := Slots.mem_entries.mp hx
      exact Slots.first_eq_none.mp hnone i hi
    · rename_i i hfound
      exact Slots.mem_entries_clear h.distinct (Slots.first_eq_some hfound)

/-- In every reachable state the text of the list fits the buffer it is put together in. -/
theorem length_listText_lt (es : List Event) :
    (listText (run step {} es).addrAllowList).length < PROPERTY_STRING_MAX_LEN := by
  have hroom : (Slots.entries 0 (run step {} es).addrAllowList).length ≤ 4 :=
    Slots.length_entries_le _
  rw [listText, length_text, PROPERTY_STRING_MAX_LEN]
  omega

end Allowlist

end K2soHead
