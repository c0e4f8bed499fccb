import Mathlib.Data.Prod.Lex
import MessagePack.Proofs.Version.Components

/-!
# Precedence of versions

Of two versions the later one is told by the first component in which they
differ. The library compares the numbers that versions are folded into instead,
where a component counts a hundred times as much as the next one.

While the components below the major one stay below this radix, as those of the
current release do, whatever has no greater number comes no later. But a
component beyond the radix outweighs one further to the left, so a version may
be answered as a later one although it precedes the current release. The mistake
goes in one direction only: what the library takes for no later than the current
release is no later. It is made for one family of versions, those of the series
before the first minor one whose patch component is beyond a hundred.
-/

namespace MessagePack.Version

/-- The components in their order, of which the first that differs decides
between two versions. -/
def precedence (version : Version) : ℕ ×ₗ ℕ ×ₗ ℕ :=
  toLex (version.major.toNat, toLex (version.minor.toNat, version.patch.toNat))

/-- One version comes no later than another if the first component that differs
is the smaller one, or if none differs. -/
theorem precedence_le_iff (left right : Version) :
    left.precedence ≤ right.precedence ↔ left.major.toNat < right.major.toNat ∨
      left.major.toNat = right.major.toNat ∧ (left.minor.toNat < right.minor.toNat ∨
        left.minor.toNat = right.minor.toNat ∧ left.patch.toNat ≤ right.patch.toNat) := by
  rw [precedence, precedence, Prod.Lex.toLex_le_toLex, Prod.Lex.toLex_le_toLex]

/-- The number of a version where it may be of any size, as no range bounds
it. -/
def folded (version : Version) : ℕ :=
  version.major.toNat * 10000 + version.minor.toNat * 100 + version.patch.toNat

/-- The components below the major one stay below the radix of a hundred. -/
structure WithinRadix (version : Version) : Prop where
  minor : version.minor.toNat < 100
  patch : version.patch.toNat < 100

/-- The current release is within the radix. -/
theorem current_withinRadix : current.WithinRadix := ⟨by decide, by decide⟩

/-! ## Folded numbers -/

/-- A version has its folded number, unless the number leaves the 32-bit range.

Proof: the number is computed in steps that are each checked. If all of them
stay within the range, they add up to the folded number; and if that is within
the range, so are the parts that it is made of. -/
theorem number_eq_ok_iff {version : Version} {number : UInt32} :
    version.number = .ok number ↔ number.toNat = version.folded := by
  unfold Version.number folded
  simp only [bind_eq_ok_iff, checkedProduct_eq_ok_iff, checkedSum_eq_ok_iff, UInt32.reduceToNat]
  constructor
  · rintro ⟨majors, majorsExact, minors, minorsExact, series, seriesExact, whole⟩
    omega
  · intro whole
    have inRange : number.toNat < UInt32.size := number.toNat_lt
    have majorsExact : (UInt32.ofNat (version.major.toNat * 10000)).toNat =
        version.major.toNat * 10000 := UInt32.toNat_ofNat_of_lt' (by omega)
    have minorsExact : (UInt32.ofNat (version.minor.toNat * 100)).toNat =
        version.minor.toNat * 100 := UInt32.toNat_ofNat_of_lt' (by omega)
    have seriesExact :
        (UInt32.ofNat (version.major.toNat * 10000 + version.minor.toNat * 100)).toNat =
          version.major.toNat * 10000 + version.minor.toNat * 100 :=
      UInt32.toNat_ofNat_of_lt' (by omega)
    refine ⟨_, majorsExact, _, minorsExact, _, seriesExact.trans ?_, ?_⟩
    · rw [majorsExact, minorsExact]
    · rw [seriesExact, whole]

/-- The current release is compared with every version that has a number, and
their numbers decide. The release itself has one. -/
theorem currentIsAtLeast_eq_ok_iff {required : Version} {answer : Bool} :
    currentIsAtLeast required = .ok answer ↔
      required.folded < UInt32.size ∧ answer = decide (required.folded ≤ current.folded) := by
  unfold currentIsAtLeast
  simp only [bind_eq_ok_iff, number_eq_ok_iff]
  constructor
  · rintro ⟨own, ownExact, wanted, wantedExact, answered⟩
    have inRange : wanted.toNat < UInt32.size := wanted.toNat_lt
    refine ⟨wantedExact ▸ inRange, ?_⟩
    rw [← ownExact, ← wantedExact, ← Except.ok.inj answered]
    rfl
  · rintro ⟨inRange, rfl⟩
    have ownExact : (UInt32.ofNat current.folded).toNat = current.folded := rfl
    have wantedExact : (UInt32.ofNat required.folded).toNat = required.folded :=
      UInt32.toNat_ofNat_of_lt' inRange
    refine ⟨_, ownExact, _, wantedExact, ?_⟩
    simp only [UInt32.le_iff_toNat_le, ownExact, wantedExact]
    rfl

/-! ## Numbers against precedence -/

/-- No number is too small: a version that comes after one within the radix has
a greater number. -/
theorem precedence_le_of_folded_le {left right : Version} (within : right.WithinRadix)
    (smaller : left.folded ≤ right.folded) : left.precedence ≤ right.precedence := by
  obtain ⟨minor, patch⟩ := within
  unfold folded at smaller
  rw [precedence_le_iff]
  omega

/-- A version of the series before the first minor one whose patch component is
beyond the number of the current release, which is a hundred. -/
structure FarPatch (version : Version) : Prop where
  major : version.major = 0
  minor : version.minor = 0
  patch : 100 < version.patch

/-- The number of a version with a far patch is the patch component. -/
theorem FarPatch.folded_eq {version : Version} (far : version.FarPatch) :
    version.folded = version.patch.toNat := by
  simp [folded, far.major, far.minor]

/-- The current release has the smaller number although it is no earlier exactly
if the other version has a far patch.

Proof: by the components of the current release, of which only the minor one is
not zero. A version that comes no later has no greater major and minor
component, so only the patch component can make its number greater. -/
theorem smaller_yet_no_earlier_iff (required : Version) :
    current.folded < required.folded ∧ required.precedence ≤ current.precedence ↔
      required.FarPatch := by
  have components : required.FarPatch ↔
      required.major.toNat = 0 ∧ required.minor.toNat = 0 ∧ 100 < required.patch.toNat := by
    constructor
    · rintro ⟨major, minor, patch⟩
      exact ⟨congrArg _ major, congrArg _ minor, UInt32.lt_iff_toNat_lt.mp patch⟩
    · rintro ⟨major, minor, patch⟩
      exact ⟨UInt32.toNat_inj.mp major, UInt32.toNat_inj.mp minor, UInt32.lt_iff_toNat_lt.mpr patch⟩
  rw [components, precedence_le_iff]
  simp only [folded, current, UInt32.reduceToNat]
  omega

/-! ## Answers against precedence -/

/-- A version that is accepted does not come after the current release, since
its number is no greater and the release is within the radix. -/
theorem precedence_le_of_accepted {required : Version}
    (accepted : currentIsAtLeast required = .ok true) :
    required.precedence ≤ current.precedence := by
  obtain ⟨_, smaller⟩ := currentIsAtLeast_eq_ok_iff.mp accepted
  exact precedence_le_of_folded_le current_withinRadix (of_decide_eq_true smaller.symm)

/-- A version with a far patch is refused, and it comes before the current
release. Its number is its patch component, which is always within the range. -/
theorem FarPatch.refused {required : Version} (far : required.FarPatch) :
    currentIsAtLeast required = .ok false ∧ required.precedence ≤ current.precedence := by
  obtain ⟨greater, earlier⟩ := (smaller_yet_no_earlier_iff required).mpr far
  have inRange : required.folded < UInt32.size := far.folded_eq ▸ required.patch.toNat_lt
  exact ⟨currentIsAtLeast_eq_ok_iff.mpr
    ⟨inRange, (decide_eq_false (Nat.not_le_of_lt greater)).symm⟩, earlier⟩

/-- A version that is refused comes after the current release, unless it has a
far patch. -/
theorem not_precedence_le_of_refused {required : Version} (near : ¬ required.FarPatch)
    (refusal : currentIsAtLeast required = .ok false) :
    ¬ required.precedence ≤ current.precedence := by
  obtain ⟨_, greater⟩ := currentIsAtLeast_eq_ok_iff.mp refusal
  intro earlier
  exact near ((smaller_yet_no_earlier_iff required).mp
    ⟨Nat.lt_of_not_le (of_decide_eq_false greater.symm), earlier⟩)

/-- The current release is compared with another version by number.

An answer is given exactly if the number of the other version fits in 32 bits,
and a version that is accepted does not come after the current release. The
answer is the one that precedence gives exactly if the other version has no far
patch, and exactly then no version above it is accepted once it is refused
itself.

Proof: what is accepted is no later. What is refused is later unless it has a
far patch, and with a far patch it is refused although it is earlier. In that
case the current release is above the refused version and accepts itself, so
that acceptance is not monotone either. -/
theorem release_compared_by_number (required : Version) :
    ((∃ answer, currentIsAtLeast required = .ok answer) ↔ required.folded < UInt32.size) ∧
    (currentIsAtLeast required = .ok true → required.precedence ≤ current.precedence) ∧
    ((∀ answer, currentIsAtLeast required = .ok answer →
        (answer = true ↔ required.precedence ≤ current.precedence)) ↔ ¬ required.FarPatch) ∧
    ((currentIsAtLeast required = .ok false → ∀ later : Version,
        required.precedence ≤ later.precedence → currentIsAtLeast later ≠ .ok true) ↔
      ¬ required.FarPatch) := by
  refine ⟨?_, precedence_le_of_accepted, ⟨?_, ?_⟩, ⟨?_, ?_⟩⟩
  · simp only [currentIsAtLeast_eq_ok_iff, exists_and_left, exists_eq, and_true]
  · intro decided far
    obtain ⟨refusal, earlier⟩ := far.refused
    exact absurd ((decided false refusal).mpr earlier) Bool.false_ne_true
  · intro near answer answered
    cases answer with
    | true => exact iff_of_true rfl (precedence_le_of_accepted answered)
    | false => exact iff_of_false Bool.false_ne_true (not_precedence_le_of_refused near answered)
  · intro monotone far
    obtain ⟨refusal, earlier⟩ := far.refused
    exact monotone refusal current earlier
      (currentIsAtLeast_eq_ok_iff.mpr ⟨by decide, (decide_eq_true le_rfl).symm⟩)
  · intro near refusal later above accepted
    exact not_precedence_le_of_refused near refusal
      (above.trans (precedence_le_of_accepted accepted))

/-- The last patch before the far ones is accepted, and the version after the
current release is refused like every later one. -/
theorem last_patch_accepted :
    let earlier : Version := ⟨0, 0, 100⟩
    let next : Version := ⟨0, 1, 1⟩
    currentIsAtLeast earlier = .ok true ∧ earlier.precedence ≤ current.precedence ∧
      currentIsAtLeast next = .ok false ∧ ¬ next.precedence ≤ current.precedence ∧
      currentIsAtLeast ⟨1, 0, 0⟩ ≠ .ok true := by
  intro earlier next
  have accepted : currentIsAtLeast earlier = .ok true :=
    currentIsAtLeast_eq_ok_iff.mpr ⟨by decide, by decide⟩
  have refused : currentIsAtLeast next = .ok false :=
    currentIsAtLeast_eq_ok_iff.mpr ⟨by decide, by decide⟩
  have near : ¬ next.FarPatch := fun far => absurd far.minor (by decide)
  have above : next.precedence ≤ precedence ⟨1, 0, 0⟩ := by
    rw [precedence_le_iff]
    decide
  obtain ⟨_, sound, _⟩ := release_compared_by_number earlier
  obtain ⟨_, _, decided, monotone⟩ := release_compared_by_number next
  have later : ¬ next.precedence ≤ current.precedence := by
    rw [← decided.mpr near false refused]
    decide
  exact ⟨accepted, sound accepted, refused, later, monotone.mpr near refused ⟨1, 0, 0⟩ above⟩

/-- A version before the current release is refused, and a version above it is
accepted: a patch component above a hundred outweighs the minor component. -/
theorem far_patch_refused :
    let required : Version := ⟨0, 0, 101⟩
    currentIsAtLeast required = .ok false ∧ required.precedence ≤ current.precedence ∧
      currentIsAtLeast current = .ok true := by
  refine ⟨rfl, ?_, rfl⟩
  rw [precedence_le_iff]
  decide

end MessagePack.Version
