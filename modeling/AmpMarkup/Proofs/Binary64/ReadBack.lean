import AmpMarkup.Proofs.Binary64.Rounding

namespace AmpMarkup.Binary64

/-!
# The shortest decimal reads back

* `readsBack_of_gridHit?` — a hit lies in the interval of the number.
* `ofDecimal?_shortest` — the shortest decimal of a representable number is rounded to it.
-/

variable {x : Binary64}

/-- A hit on a grid is a multiple of its width that reads back. -/
theorem readsBack_of_gridHit? {j : Int} {c : Nat} (h : x.gridHit? j = some c) :
    x.readsBack c j = true := by
  unfold gridHit? at h
  dsimp only at h
  split at h
  · rename_i hlow hhigh
    split at h
    · rw [← Option.some.inj h]
      exact hlow
    · rw [← Option.some.inj h]
      exact hhigh
  · rename_i hlow _
    rw [← Option.some.inj h]
    exact hlow
  · rename_i _ hhigh
    rw [← Option.some.inj h]
    exact hhigh
  · exact absurd h (by simp)

/-- A number that is written out in units is rounded to itself. -/
theorem ofDecimal?_units {c k : Nat} {j : Int} (hx : x.Representable) (hj : j = -(k : Int))
    (hscale : c * one = 10 ^ k) : ofDecimal? (x.units * c) j = some x := by
  rw [ofDecimal?_eq, show (-j).toNat = k by omega, show j.toNat = 0 by omega, Nat.pow_zero,
    Nat.mul_one]
  refine ofRatio?_of_exact hx (Nat.pow_pos (by decide)) ?_
  rw [Nat.mul_assoc, hscale]

/-- The shortest decimal reads back as the number. -/
theorem ofDecimal?_shortest (hx : x.Representable) :
    ofDecimal? x.shortest.digits x.shortest.exponent = some x := by
  have hscale : Nat.pow 5 1074 * one = 10 ^ 1074 := by decide +kernel
  rw [shortest]
  cases hhit : x.coarsestHit? with
  | none =>
    -- Without a hit the number itself is written out.
    rw [Option.getD_none]
    exact ofDecimal?_units (k := 1074) hx rfl hscale
  | some d =>
    rw [Option.getD_some]
    rw [coarsestHit?] at hhit
    obtain ⟨j, -, hfound⟩ := List.exists_of_findSome?_eq_some hhit
    obtain ⟨c, hc, rfl⟩ := Option.map_eq_some_iff.mp hfound
    exact ofDecimal?_of_readsBack hx (readsBack_of_gridHit? hc)

end AmpMarkup.Binary64
