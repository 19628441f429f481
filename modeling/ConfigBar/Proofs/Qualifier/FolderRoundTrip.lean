import ConfigBar.Proofs.Qualifier.Reading
import ConfigBar.Proofs.Qualifier.Segment
/-!
# Folder names are read back

A set is read back from its folder name exactly if its language and its region are codes, and a
folder name that is accepted gives such a set.

* `segments_folder` — a folder name falls into the segments it was joined from
* `hasCodes_of_readSegments` — what is read has codes for the language and the region
* `areOrdered_segments` — the segments of a set with codes are read
* `folder_round_trip` — both directions together
-/

namespace ConfigBar

open Text

/-- Are the language and the region codes, as far as they are there? -/
def QualifierSet.hasCodes (s : QualifierSet) : Bool :=
  s.language.all isLanguageCode && s.region.all isRegionCode

/-! ## The segments of a folder name -/

namespace QualifierSet

/-- A folder name falls into the segments it was joined from. -/
theorem segments_folder {qs : List Qualifier} (hne : qs ≠ [])
    (hcodes : ∀ q ∈ qs, q.hasCode = true) :
    segments ("-".intercalate (qs.map Qualifier.segment)) = qs.map Qualifier.segment := by
  refine segments_eq_iff.mpr ⟨_, _, by simpa using hne, fun text ht hdash => ?_, rfl,
    List.forall₂_same.mpr fun text ht => ?_, (List.filter_eq_self.mpr fun text ht => ?_).symm⟩
  · -- a dash is neither a letter nor a digit
    obtain ⟨q, hq, rfl⟩ := List.mem_map.mp ht
    have := Qualifier.isAlphanum_of_mem_segment (hcodes q hq) '-' hdash
    revert this
    decide
  · obtain ⟨q, hq, rfl⟩ := List.mem_map.mp ht
    exact isCore_self fun c hc =>
      isBlank_of_isAlphanum (Qualifier.isAlphanum_of_mem_segment (hcodes q hq) c hc)
  · obtain ⟨q, hq, rfl⟩ := List.mem_map.mp ht
    simpa using Qualifier.segment_ne_nil (hcodes q hq)

/-! ## Codes -/

theorem hasCodes_iff {s : QualifierSet} :
    s.hasCodes = true ↔ ∀ k q, s.get? k = some q → q.hasCode = true := by
  unfold hasCodes
  rw [Bool.and_eq_true]
  constructor
  · rintro ⟨hl, hr⟩ k q hq
    cases k with
    | language =>
      obtain ⟨code, hcode, rfl⟩ := Option.map_eq_some_iff.mp hq
      rw [hcode] at hl
      exact hl
    | region =>
      obtain ⟨code, hcode, rfl⟩ := Option.map_eq_some_iff.mp hq
      rw [hcode] at hr
      exact hr
    | _ =>
      obtain ⟨v, -, rfl⟩ := Option.map_eq_some_iff.mp hq
      rfl
  · intro h
    constructor
    · cases hl : s.language with
      | none => rfl
      | some code => exact h .language (.language code) (congrArg (Option.map _) hl)
    · cases hr : s.region with
      | none => rfl
      | some code => exact h .region (.region code) (congrArg (Option.map _) hr)

/-- What is read into a set has codes for the language and the region. -/
theorem hasCodes_of_readSegments {texts : List String} {s t : QualifierSet} {last : Option Kind}
    (hs : s.hasCodes = true) (h : readSegments s last texts = .ok t) : t.hasCodes = true := by
  induction texts generalizing s last with
  | nil =>
    cases h
    exact hs
  | cons text rest ih =>
    rw [readSegments] at h
    split at h
    · cases h
    · next q hq =>
      split at h
      · cases h
      · split at h
        · cases h
        · refine ih (hasCodes_iff.mpr fun k p hp => ?_) h
          rw [get?_add] at hp
          split at hp
          · cases hp
            exact Qualifier.hasCode_of_ofSegment? hq
          · exact hasCodes_iff.mp hs k p hp

/-! ## The round trip -/

theorem ofSegments_map_segment {qs : List Qualifier} (h : ∀ q ∈ qs, q.hasCode = true) :
    Qualifier.ofSegments (qs.map Qualifier.segment) = qs := by
  induction qs with
  | nil => rfl
  | cons q qs ih =>
    rw [List.map_cons, Qualifier.ofSegments, List.filterMap_cons,
      Qualifier.ofSegment?_segment (h q List.mem_cons_self)]
    exact congrArg (q :: ·) (ih fun p hp => h p (List.mem_cons_of_mem q hp))

/-- The segments of a set with codes are ordered. -/
theorem areOrdered_segments {s : QualifierSet} (h : ∀ q ∈ s.toList, q.hasCode = true) :
    AreOrdered (s.toList.map Qualifier.segment) where
  recognized text ht := by
    obtain ⟨q, hq, rfl⟩ := List.mem_map.mp ht
    rw [Qualifier.ofSegment?_segment (h q hq)]
    rfl
  ascending := by
    rw [ofSegments_map_segment h]
    exact toList_ascending s

/-- A set whose language and region are codes is read back from its folder name. -/
theorem ofFolder_folder {s : QualifierSet} (hs : s.hasCodes = true) :
    ofFolder (s.folder?.getD "") = .ok s := by
  have hcodes : ∀ q ∈ s.toList, q.hasCode = true := fun q hq =>
    hasCodes_iff.mp hs _ q (mem_toList.mp hq)
  have hsegments : segments (s.folder?.getD "") = s.toList.map Qualifier.segment := by
    unfold folder? isEmpty
    cases hlist : s.toList with
    | nil => rfl
    | cons q qs =>
      rw [hlist] at hcodes
      exact segments_folder (List.cons_ne_nil q qs) hcodes
  have hordered := areOrdered_segments hcodes
  rw [← hsegments] at hordered
  rw [ofFolder_of_areOrdered hordered, hsegments, ofSegments_map_segment hcodes, ofList_toList]

/-- **The folder name of a set is read back exactly if the language and the region are codes, and
every set that is read is of this kind**, so that writing it and reading it again changes
nothing. -/
theorem folder_round_trip (s : QualifierSet) :
    (ofFolder (s.folder?.getD "") = .ok s ↔ s.hasCodes = true) ∧
      ∀ text, ofFolder text = .ok s →
        s.hasCodes = true ∧ ofFolder (s.folder?.getD "") = .ok s := by
  have hcodes : ∀ text, ofFolder text = .ok s → s.hasCodes = true := fun text h =>
    hasCodes_of_readSegments rfl h
  exact ⟨⟨hcodes _, ofFolder_folder⟩, fun text h =>
    ⟨hcodes text h, ofFolder_folder (hcodes text h)⟩⟩

/-- A folder name with an empty segment, blanks and leading zeros is read, and so is the name that
is written for the set. -/
theorem folder_round_trip_of_sloppy_name :
    let s : QualifierSet := { empty with
      countryCode := some 310, language := some "en", region := some "US",
      orientation := some .landscape, dimension := some ⟨640, 480⟩, version := some 4 }
    ofFolder "mcc0310-en- rUS--land-640x480-v04" = .ok s ∧
      s.folder? = some "mcc310-en-rUS-land-640x480-v4" ∧
      s.hasCodes = true ∧ ofFolder (s.folder?.getD "") = .ok s := by
  intro s
  have hread : ofFolder "mcc0310-en- rUS--land-640x480-v04" = .ok s := rfl
  exact ⟨hread, rfl, (folder_round_trip s).2 _ hread⟩

end QualifierSet

end ConfigBar
