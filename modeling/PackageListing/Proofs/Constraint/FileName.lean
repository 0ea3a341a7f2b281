/-
# What the end of a file name admits

A stem divides into the pieces after its first low line, less a last piece `test`
(`divides_iff`), and these end in the tags of the platform that the file is for, if it is for one
(`EndsIn`). A build reads a file with a known extension just if these tags hold in it
(`IsNamed.isMatch_eq`, `EndsIn.platformHolds_iff`). So what stands before the first low line does
not matter, and a stem with `_test` at its end is for the same platform as the stem without
(`Divides.append_test`). The main statement is `isMatch_by_platform`.
-/

import PackageListing.Constraint.FileName
import Mathlib.Data.List.Basic

namespace PackageListing
namespace Constraint
namespace FileName

/-! ### Names that are read -/

/-- The file name with the given text before its first full stop and after it. -/
def name (front rest : List Char) : String :=
  String.ofList (front ++ '.' :: rest)

/-- The two parts of a name that is not hidden and has a known extension. -/
structure IsNamed (front rest : List Char) : Prop where
  ne_nil : front ≠ []
  undotted : '.' ∉ front
  shown : front.head? ≠ some '_'
  known : ∃ ext ∈ extensions, rest = ext.toList ∨ ∃ others, rest = others ++ '.' :: ext.toList

theorem not_mem_of_mem_extensions : ∀ ext ∈ extensions, '.' ∉ ext.toList := by
  decide

theorem extension?_append {ending : List Char} (h : '.' ∉ ending) (front : List Char) :
    extension? (front ++ '.' :: ending) = some ending := by
  rw [extension?, if_pos (by simp), Text.reverse_takeWhile_append h]

/-- **The extension of a name** is what comes after its last full stop. -/
theorem extension?_eq_some_iff {name ending : List Char} :
    extension? name = some ending ↔ '.' ∉ ending ∧ ∃ front, name = front ++ '.' :: ending := by
  constructor
  · intro h
    have hdot : '.' ∈ name := by
      rw [extension?] at h
      split at h
      · next hcontains => exact List.contains_iff_mem.1 hcontains
      · cases h
    obtain ⟨front, last, rfl, hlast⟩ := Text.exists_append_last hdot
    rw [extension?_append hlast] at h
    obtain rfl := Option.some.inj h
    exact ⟨hlast, front, rfl⟩
  · rintro ⟨hdot, front, rfl⟩
    exact extension?_append hdot front

theorem stem_append {front : List Char} (h : '.' ∉ front) (rest : List Char) :
    stem (front ++ '.' :: rest) = front := by
  have hall : ∀ c ∈ front, (c != '.') = true := fun c hc =>
    bne_iff_ne.2 fun heq => h (heq ▸ hc)
  rw [stem, List.takeWhile_append_of_pos hall]
  simp

theorem IsNamed.isRead {front rest : List Char} (h : IsNamed front rest) :
    isRead (front ++ '.' :: rest) = true := by
  obtain ⟨ext, hext, hrest⟩ := h.known
  have hextension : extension? (front ++ '.' :: rest) = some ext.toList := by
    have hdot := not_mem_of_mem_extensions ext hext
    rcases hrest with rfl | ⟨others, rfl⟩
    · exact extension?_append hdot front
    · have happend := extension?_append hdot (front ++ '.' :: others)
      rwa [List.append_assoc, List.cons_append] at happend
  obtain ⟨c, front, rfl⟩ := List.exists_cons_of_ne_nil h.ne_nil
  have hline : c ≠ '_' := fun heq => h.shown (congrArg some heq)
  have hstop : c ≠ '.' := fun heq => h.undotted (heq ▸ List.mem_cons_self)
  rw [FileName.isRead, hextension]
  simpa [hline, hstop] using hext

/-! ### The pieces of a stem -/

/-- What a stem divides into: its pieces after the first low line, without `test` at their end. -/
inductive Divides (s : List Char) : List String → Prop
  /-- A stem without low lines has no pieces. -/
  | whole (h : '_' ∉ s) : Divides s []
  /-- The last piece `test` does not count. -/
  | tested {front back : List Char} {pieces : List String} (hfront : '_' ∉ front)
    (hs : s = front ++ '_' :: back)
    (hpieces : (back.splitOn '_').map String.ofList = pieces ++ ["test"]) : Divides s pieces
  /-- Any other piece does. -/
  | parted {front back : List Char} {pieces : List String} (hfront : '_' ∉ front)
    (hs : s = front ++ '_' :: back) (hpieces : (back.splitOn '_').map String.ofList = pieces)
    (hlast : pieces.getLast? ≠ some "test") : Divides s pieces

theorem platformPieces_of_not_mem {s : List Char} (h : '_' ∉ s) : platformPieces s = [] := by
  have hcontains : s.contains '_' = false := by simpa using h
  simp only [platformPieces, hcontains]
  rfl

theorem platformPieces_append {front : List Char} (h : '_' ∉ front) (back : List Char) :
    platformPieces (front ++ '_' :: back) =
      if ((back.splitOn '_').map String.ofList).getLast? = some "test" then
        ((back.splitOn '_').map String.ofList).dropLast
      else (back.splitOn '_').map String.ofList := by
  have hall : ∀ c ∈ front, (c != '_') = true := fun c hc =>
    bne_iff_ne.2 fun heq => h (heq ▸ hc)
  have hdrop : (front ++ '_' :: back).dropWhile (· != '_') = '_' :: back := by
    rw [List.dropWhile_append_of_pos hall]
    rfl
  have hcontains : (front ++ '_' :: back).contains '_' = true := by simp
  simp only [platformPieces, hcontains, hdrop, List.drop_succ_cons, List.drop_zero, if_true]

/-- **The pieces of a stem** are those that it divides into. -/
theorem divides_iff {s : List Char} {pieces : List String} :
    Divides s pieces ↔ platformPieces s = pieces := by
  constructor
  · rintro (h | ⟨hfront, rfl, hpieces⟩ | ⟨hfront, rfl, hpieces, hlast⟩)
    · exact platformPieces_of_not_mem h
    · rw [platformPieces_append hfront, hpieces, List.getLast?_concat, if_pos rfl,
        List.dropLast_concat]
    · rw [platformPieces_append hfront, hpieces, if_neg hlast]
  · rintro rfl
    by_cases hs : '_' ∈ s
    · obtain ⟨front, back, rfl, hfront⟩ := List.eq_append_cons_of_mem hs
      rw [platformPieces_append hfront]
      split
      · next hlast =>
        obtain ⟨before, hconcat⟩ := List.getLast?_eq_some_iff.1 hlast
        exact .tested hfront rfl (by rw [hconcat, List.dropLast_concat])
      · next hlast => exact .parted hfront rfl rfl hlast
    · rw [platformPieces_of_not_mem hs]
      exact .whole hs

/-- A text ends in its last piece. -/
theorem isSuffix_intercalate (before : List (List Char)) (piece : List Char) :
    '_' :: piece <:+ '_' :: ['_'].intercalate (before ++ [piece]) := by
  induction before with
  | nil => simp only [List.nil_append, List.intercalate_singleton, List.suffix_rfl]
  | cons first before ih =>
    rw [List.cons_append, List.intercalate_cons_of_ne_nil (List.concat_ne_nil piece before),
      List.append_assoc]
    exact ih.trans (List.suffix_append ('_' :: first) _)

/-- **A stem with `_test` at its end divides as the stem without.** -/
theorem Divides.append_test {s : List Char} {pieces : List String} (h : Divides s pieces)
    (hs : ¬"_test".toList <:+ s) : Divides (s ++ "_test".toList) pieces := by
  cases h with
  | whole h => exact @Divides.tested _ s "test".toList [] h rfl rfl
  | @tested front back _ hfront hback hpieces =>
    have hsplit : back.splitOn '_' = pieces.map String.toList ++ ["test".toList] := by
      rw [← List.map_singleton, ← List.map_append, ← hpieces, List.map_map]
      exact (List.map_id'' (fun _ => String.toList_ofList) _).symm
    have hjoin : ['_'].intercalate (back.splitOn '_') = back := List.intercalate_splitOn '_'
    have hsuffix := isSuffix_intercalate (pieces.map String.toList) "test".toList
    rw [← hsplit, hjoin] at hsuffix
    exact absurd (hback ▸ hsuffix.trans (List.suffix_append front _)) hs
  | @parted front back _ hfront hback hpieces _ =>
    subst hback
    have htest : front ++ '_' :: back ++ "_test".toList =
        front ++ '_' :: (back ++ '_' :: "test".toList) :=
      List.append_assoc front ('_' :: back) "_test".toList
    refine .tested hfront htest ?_
    rw [List.splitOn_append_cons_self, List.map_append, hpieces]
    rfl

/-! ### The platform -/

/-- The tags of the platform that some pieces end in. -/
inductive EndsIn : List String → List String → Prop
  /-- An operating system, followed by an architecture. -/
  | both {before : List String} {system architecture : String} (hsystem : system ∈ systems)
    (harchitecture : architecture ∈ architectures) :
    EndsIn (before ++ [system, architecture]) [system, architecture]
  /-- One of the two alone. -/
  | one {before : List String} {last : String} (hlast : last ∈ systems ∨ last ∈ architectures)
    (halone : last ∈ architectures → ∀ piece ∈ before.getLast?, piece ∉ systems) :
    EndsIn (before ++ [last]) [last]
  /-- Neither. -/
  | none {pieces : List String}
    (h : ∀ last ∈ pieces.getLast?, last ∉ systems ∧ last ∉ architectures) : EndsIn pieces []

theorem exists_endsIn (pieces : List String) : ∃ tags, EndsIn pieces tags := by
  rcases List.eq_nil_or_concat pieces with rfl | ⟨before, last, rfl⟩
  · exact ⟨[], .none fun _ h => nomatch h⟩
  · rw [List.concat_eq_append]
    by_cases hlast : last ∈ systems ∨ last ∈ architectures
    · by_cases halone : last ∈ architectures → ∀ piece ∈ before.getLast?, piece ∉ systems
      · exact ⟨[last], .one hlast halone⟩
      · push Not at halone
        obtain ⟨harchitecture, system, hbefore, hsystem⟩ := halone
        obtain ⟨front, rfl⟩ := List.getLast?_eq_some_iff.1 hbefore
        refine ⟨[system, last], ?_⟩
        rw [List.append_assoc]
        exact .both hsystem harchitecture
    · refine ⟨[], .none fun piece h => ?_⟩
      rw [List.getLast?_concat] at h
      cases h
      exact not_or.1 hlast

section Platform

variable (ctx : Context)

theorem platformHolds_single (last : String) :
    platformHolds ctx [last] =
      if systems.contains last || architectures.contains last then ctx.holds last else true := rfl

theorem platformHolds_pair (before : List String) (system last : String) :
    platformHolds ctx (before ++ [system, last]) =
      if systems.contains system && architectures.contains last then
        ctx.holds system && ctx.holds last
      else if systems.contains last || architectures.contains last then ctx.holds last
      else true := by
  rw [platformHolds, List.reverse_append]
  rfl

/-- **The pieces admit the build** just if the tags that they end in hold. -/
theorem EndsIn.platformHolds_iff {pieces tags : List String} (h : EndsIn pieces tags) :
    platformHolds ctx pieces = true ↔ ∀ tag ∈ tags, ctx.holds tag = true := by
  cases h with
  | both hsystem harchitecture =>
    rw [platformHolds_pair]
    simp [hsystem, harchitecture]
  | @one before last hlast halone =>
    rcases List.eq_nil_or_concat before with rfl | ⟨front, piece, rfl⟩
    · rw [List.nil_append, platformHolds_single]
      simp [hlast]
    · rw [List.concat_eq_append, List.getLast?_concat] at halone
      have hpair : ¬(piece ∈ systems ∧ last ∈ architectures) :=
        fun h => halone h.2 piece rfl h.1
      rw [List.concat_eq_append, List.append_assoc]
      simp [platformHolds_pair, hpair, hlast]
  | none h =>
    rcases List.eq_nil_or_concat pieces with rfl | ⟨before, last, rfl⟩
    · exact iff_of_true rfl (List.forall_mem_nil _)
    · rw [List.concat_eq_append, List.getLast?_concat] at h
      obtain ⟨hsystem, harchitecture⟩ := h last rfl
      refine iff_of_true ?_ (List.forall_mem_nil _)
      rcases List.eq_nil_or_concat before with rfl | ⟨front, piece, rfl⟩
      · rw [List.concat_eq_append, List.nil_append, platformHolds_single]
        simp [hsystem, harchitecture]
      · rw [List.concat_eq_append, List.concat_eq_append, List.append_assoc]
        simp [platformHolds_pair, hsystem, harchitecture]

end Platform

/-! ### The platform of a name -/

theorem IsNamed.isMatch_eq {front rest : List Char} (h : IsNamed front rest) (ctx : Context) :
    isMatch ctx (name front rest) = platformHolds ctx (platformPieces front) := by
  rw [isMatch, name, String.toList_ofList, h.isRead, stem_append h.undotted, Bool.true_and]

theorem IsNamed.append_test {front rest : List Char} (h : IsNamed front rest) :
    IsNamed (front ++ "_test".toList) rest where
  ne_nil := List.append_ne_nil_of_left_ne_nil h.ne_nil _
  undotted := fun hmem => (List.mem_append.1 hmem).elim h.undotted (by decide)
  shown := by
    rw [List.head?_append_of_ne_nil _ h.ne_nil]
    exact h.shown
  known := h.known

/-- **A build reads a file just if the tags hold in it that the pieces of the stem end in.** What
stands before the first low line does not matter, nor does a first `_test` at the end of the
stem. -/
theorem isMatch_by_platform (ctx : Context) {front rest : List Char} (h : IsNamed front rest) :
    ((∃ pieces tags, Divides front pieces ∧ EndsIn pieces tags) ∧
      ∀ pieces tags, Divides front pieces → EndsIn pieces tags →
        (isMatch ctx (name front rest) = true ↔ ∀ tag ∈ tags, ctx.holds tag = true)) ∧
      (∀ before before' back rest', '_' ∉ before → '_' ∉ before' →
        front = before ++ '_' :: back → IsNamed (before' ++ '_' :: back) rest' →
        isMatch ctx (name (before' ++ '_' :: back) rest') = isMatch ctx (name front rest)) ∧
      (¬"_test".toList <:+ front →
        isMatch ctx (name (front ++ "_test".toList) rest) = isMatch ctx (name front rest)) := by
  have hdivides : Divides front (platformPieces front) := divides_iff.2 rfl
  refine ⟨⟨?_, fun pieces tags hpieces htags => ?_⟩,
    fun before before' back rest' hbefore hbefore' hfront h' => ?_, fun htest => ?_⟩
  · obtain ⟨tags, htags⟩ := exists_endsIn (platformPieces front)
    exact ⟨_, tags, hdivides, htags⟩
  · rw [h.isMatch_eq, divides_iff.1 hpieces]
    exact htags.platformHolds_iff ctx
  · rw [h.isMatch_eq, h'.isMatch_eq, hfront, platformPieces_append hbefore,
      platformPieces_append hbefore']
  · rw [h.isMatch_eq, h.append_test.isMatch_eq, divides_iff.1 (hdivides.append_test htest)]

/-- The name of a platform at the beginning of a stem does not count, and the one at its end does,
before `_test` as well. -/
theorem isMatch_windows_linux :
    IsNamed "windows_linux_arm64".toList "pb.go".toList ∧
      isMatch Context.host "windows_linux_arm64.pb.go" = false ∧
      isMatch Context.host "windows_linux_arm64_test.pb.go" = false ∧
      isMatch { Context.host with architecture := "arm64" } "windows_linux_arm64.pb.go" = true := by
  have h : IsNamed "windows_linux_arm64".toList "pb.go".toList :=
    ⟨by decide, by decide, by decide, "go", by decide, .inr ⟨"pb".toList, rfl⟩⟩
  have hpieces : Divides "windows_linux_arm64".toList ["linux", "arm64"] :=
    divides_iff.2 (by decide +kernel)
  have htags : EndsIn ["linux", "arm64"] ["linux", "arm64"] :=
    @EndsIn.both [] "linux" "arm64" (by decide) (by decide)
  obtain ⟨⟨-, hhost⟩, -, htest⟩ := isMatch_by_platform Context.host h
  have hfalse : isMatch Context.host (name "windows_linux_arm64".toList "pb.go".toList) = false :=
    Bool.eq_false_iff.2 fun hmatch =>
      absurd ((hhost _ _ hpieces htags).1 hmatch "arm64" (by decide)) (by decide +kernel)
  refine ⟨h, hfalse, (htest (by decide)).trans hfalse, ?_⟩
  obtain ⟨⟨-, harm⟩, -⟩ := isMatch_by_platform { Context.host with architecture := "arm64" } h
  exact (harm _ _ hpieces htags).2 (by decide +kernel)

end FileName
end Constraint
end PackageListing
