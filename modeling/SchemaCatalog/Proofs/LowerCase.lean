import SchemaCatalog.Expr.Reference

/-!
# Lower case is final

A text in lower case stays as it is when it is put into lower case again: `Text.lower_lower`. The
letters that `lower` writes are in lower case wherever they stand (`isLower_of_mem`), the capital
sigma included, whose image depends on its place but is one of two letters that have no other. For
the letters in the tables this is a computation over the tables.

Names of functions are looked up in lower case, and the calls of an expression are recorded so:
`Expr.lower_of_mem_callNames`.
-/

namespace SchemaCatalog

namespace Text

/-! ## 1. Letters -/

/-- The character is its own lower case, wherever it stands. -/
def isLower (c : Char) : Bool := c != capitalSigma && lowerChar c == [c]

theorem lowerCharIn_of_isLower {before after : List Char} {c : Char} (h : isLower c = true) :
    lowerCharIn before c after = [c] := by
  simp only [isLower, Bool.and_eq_true, bne_iff_ne, ne_eq, beq_iff_eq] at h
  rw [lowerCharIn, if_neg (by simpa using h.1), h.2]

/-- The number of a letter is in a run. -/
def CaseRun.covers (run : CaseRun) (n : Nat) : Bool :=
  run.1 ≤ n && n ≤ run.2.1 && (n - run.1) % run.2.2.1 == 0

/-- The number of the image that a run gives to a letter. -/
def CaseRun.image (run : CaseRun) (n : Nat) : Nat := ((n : Int) + run.2.2.2).toNat

/-- No letter of a run has its image in another one. Runs that are apart are not gone through. -/
def CaseRun.misses (run other : CaseRun) : Bool :=
  Nat.blt (run.image run.2.1) other.1 || Nat.blt other.2.1 (run.image run.1)
    || (List.range (run.2.1 + 1 - run.1)).all fun i =>
        !(run.covers (run.1 + i) && other.covers (run.image (run.1 + i)))

theorem CaseRun.covers_image {run other : CaseRun} (h : run.misses other = true) {n : Nat}
    (hn : run.covers n = true) : other.covers (run.image n) = false := by
  have hbounds := hn
  simp only [covers, Bool.and_eq_true, decide_eq_true_eq] at hbounds
  obtain ⟨⟨hfirst, hlast⟩, -⟩ := hbounds
  simp only [misses, Bool.or_eq_true, Nat.blt_eq] at h
  rcases h with (habove | hbelow) | hall
  · have hle : run.image n ≤ run.image run.2.1 := by unfold image; omega
    simp [covers, Nat.not_le.mpr (Nat.lt_of_le_of_lt hle habove)]
  · have hle : run.image run.1 ≤ run.image n := by unfold image; omega
    simp [covers, Nat.not_le.mpr (Nat.lt_of_lt_of_le hbelow hle)]
  · rw [List.all_eq_true] at hall
    have hletter := hall (n - run.1) (List.mem_range.mpr (by omega))
    rw [show run.1 + (n - run.1) = n by omega, hn, Bool.true_and] at hletter
    exact (Bool.not_eq_true' _).mp hletter

/-- The letters that have a lower case other than themselves, in runs. -/
def properRuns : List CaseRun := (0x41, 0x5a, 1, 32) :: (0x130, 0x130, 1, 0) :: lowerRuns

/-- The images of the letters in the table have no lower case other than themselves. -/
theorem lowerRuns_misses :
    (lowerRuns.all fun run => properRuns.all run.misses) = true := by
  decide +kernel

theorem isLower_of_covers {c : Char} (h : ∀ run ∈ properRuns, run.covers c.toNat = false) :
    isLower c = true := by
  obtain ⟨hupper, hdotted, hruns⟩ := by simpa only [properRuns, List.forall_mem_cons] using h
  have hsigma : c ≠ capitalSigma := by
    rintro rfl
    exact absurd (hruns (0x3a3, 0x3ab, 1, 32) (by decide +kernel)) (by decide +kernel)
  have hself : lowerChar c = [c] := by
    unfold lowerChar
    split
    · have hcapital : ¬ ('A' ≤ c ∧ c ≤ 'Z') := by
        rintro ⟨hA, hZ⟩
        have hA' : 0x41 ≤ c.toNat := hA
        have hZ' : c.toNat ≤ 0x5a := hZ
        simp [CaseRun.covers, hA', hZ', Nat.mod_one] at hupper
      simp [hcapital]
    · have hexpansion : lowerExpansions.find? (·.1 == c.toNat) = none := by
        refine List.find?_eq_none.mpr fun expansion hmem heq => ?_
        rw [List.mem_singleton.mp hmem, beq_iff_eq] at heq
        rw [← heq] at hdotted
        exact absurd hdotted (by decide)
      have hrun : lowerRuns.find? (fun run => run.covers c.toNat) = none :=
        List.find?_eq_none.mpr fun run hmem hcovers => by simp [hruns run hmem] at hcovers
      unfold CaseRun.covers at hrun
      simp only [mapByRuns, hexpansion, hrun]
  simp [isLower, hsigma, hself]

/-- A number that is none of a character stands for the first one, which has no case. -/
theorem isLower_ofNat {n : Nat} (h : ∀ run ∈ properRuns, run.covers n = false) :
    isLower (Char.ofNat n) = true := by
  by_cases hvalid : n.isValidChar
  · have hnumber : (Char.ofNat n).toNat = n := by
      rw [show Char.ofNat n = Char.ofNatAux n hvalid from dif_pos hvalid]
      rfl
    exact isLower_of_covers (hnumber.symm ▸ h)
  · rw [show Char.ofNat n = Char.ofNat 0 from dif_neg hvalid]
    decide +kernel

/-- A letter of ASCII has its image in lower case. -/
theorem isLower_ascii : ∀ n < 128, (lowerChar (Char.ofNat n)).all isLower = true := by
  decide +kernel

/-- Outside ASCII, the image of a letter under the tables is in lower case. -/
theorem isLower_mapByRuns {c d : Char} (hc : ¬ c.toNat < 128) (hsigma : c ≠ capitalSigma)
    (hd : d ∈ mapByRuns lowerRuns lowerExpansions c) : isLower d = true := by
  unfold mapByRuns at hd
  cases hexpansion : lowerExpansions.find? (·.1 == c.toNat) with
  | some expansion =>
    have hall : ∀ n ∈ [0x69, 0x307], isLower (Char.ofNat n) = true := by decide +kernel
    simp only [hexpansion, List.mem_map] at hd
    obtain ⟨n, hn, rfl⟩ := hd
    rw [List.mem_singleton.mp (List.mem_of_find?_eq_some hexpansion)] at hn
    exact hall n hn
  | none =>
    simp only [hexpansion] at hd
    split at hd
    · rename_i first last step distance hrun
      have hmem := List.mem_of_find?_eq_some hrun
      have hfound := List.find?_some hrun
      have hcovers : CaseRun.covers (first, last, step, distance) c.toNat = true := hfound
      have hmisses := List.all_eq_true.mp lowerRuns_misses _ hmem
      rw [List.mem_singleton.mp hd]
      exact isLower_ofNat fun other hother =>
        CaseRun.covers_image (List.all_eq_true.mp hmisses other hother) hcovers
    · rename_i hrun
      rw [List.mem_singleton.mp hd]
      have hself : lowerChar c = [c] := by
        simp only [lowerChar, if_neg hc, mapByRuns, hexpansion, hrun]
      simp [isLower, hsigma, hself]

/-- Every character of an image is in lower case. -/
theorem isLower_of_mem {before after : List Char} {c d : Char}
    (hd : d ∈ lowerCharIn before c after) : isLower d = true := by
  unfold lowerCharIn at hd
  split at hd
  · rw [List.mem_singleton.mp hd]
    split <;> decide +kernel
  · rename_i hsigma
    have hne : c ≠ capitalSigma := by simpa using hsigma
    by_cases hc : c.toNat < 128
    · have hascii := isLower_ascii c.toNat hc
      rw [Char.ofNat_toNat, List.all_eq_true] at hascii
      exact hascii d hd
    · rw [lowerChar, if_neg hc] at hd
      exact isLower_mapByRuns hc hne hd

/-! ## 2. Texts -/

/-- Characters in lower case stay as they are. -/
theorem lowerFrom_of_isLower {cs : List Char} (before : List Char)
    (h : ∀ c ∈ cs, isLower c = true) : lowerFrom before cs = cs := by
  induction cs generalizing before with
  | nil => rfl
  | cons c cs ih =>
    obtain ⟨hc, hcs⟩ := List.forall_mem_cons.mp h
    rw [lowerFrom, lowerCharIn_of_isLower hc, ih _ hcs]
    rfl

theorem isLower_of_mem_lowerFrom {cs : List Char} {before : List Char} {d : Char}
    (hd : d ∈ lowerFrom before cs) : isLower d = true := by
  induction cs generalizing before with
  | nil => cases hd
  | cons c cs ih =>
    rcases List.mem_append.mp hd with hfirst | hrest
    · exact isLower_of_mem hfirst
    · exact ih hrest

/-- A text in lower case is its own lower case. -/
@[simp] theorem lower_lower (s : String) : lower (lower s) = lower s := by
  unfold lower
  rw [String.toList_ofList, lowerFrom_of_isLower [] fun _ hd => isLower_of_mem_lowerFrom hd]

end Text

/-! ## 3. Calls -/

namespace Expr

mutual

/-- The calls of an expression have their names in lower case. -/
theorem lower_of_mem_callNames {names : List String} {n : String} (hn : n ∈ names) :
    (e : Expr) → names ∈ e.callNames → Text.lower n = n
  | column qualifiers name, h => by
    simp only [callNames] at h
    split at h
    · rw [List.mem_singleton.mp h, List.mem_singleton] at hn
      rw [hn, Text.lower_lower]
    · cases h
  | literal _, h => by simp [callNames] at h
  | paren inner, h => lower_of_mem_callNames hn inner h
  | negate inner, h => lower_of_mem_callNames hn inner h
  | not inner, h => lower_of_mem_callNames hn inner h
  | and left right, h | or left right, h | compare _ left right, h | is left right, h =>
    (List.mem_append.mp h).elim (lower_of_mem_callNames hn left) (lower_of_mem_callNames hn right)
  | call called arguments, h => by
    simp only [callNames] at h
    split at h
    · exact lower_of_mem_callNamesOfAll hn arguments h
    · rcases List.mem_cons.mp h with rfl | harguments
      · obtain ⟨m, -, rfl⟩ := List.mem_map.mp hn
        exact Text.lower_lower m
      · exact lower_of_mem_callNamesOfAll hn arguments harguments
  | compound operands, h | query operands, h | nameless _ operands, h =>
    lower_of_mem_callNamesOfAll hn operands h

/-- So have the calls of several expressions. -/
theorem lower_of_mem_callNamesOfAll {names : List String} {n : String} (hn : n ∈ names) :
    (es : List Expr) → names ∈ callNamesOfAll es → Text.lower n = n
  | [], h => by simp [callNamesOfAll] at h
  | e :: es, h =>
    (List.mem_append.mp h).elim (lower_of_mem_callNames hn e) (lower_of_mem_callNamesOfAll hn es)

end

end Expr

end SchemaCatalog
