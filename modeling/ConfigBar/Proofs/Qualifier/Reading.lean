import ConfigBar.Qualifier.Folder
import ConfigBar.Proofs.Qualifier.Listing
import ConfigBar.Proofs.Text.Joined
import Mathlib.Data.List.Forall2
/-!
# Reading folder names

Folder names are read segment by segment. What has been read is described by the segments alone:
all of them were recognised, and their kinds are strictly ascending (`AreOrdered`). So a segment
goes on with the name, or it has a fault (`IsFault`), which depends on the segments before it.

* `segments_eq_iff` — which segments a text falls into
* `readBehind_cons`, `readBehind_of_isFault` — one segment that goes on, and one that is at fault
* `readBehind_append` — all segments up to the first fault are read
* `areOrdered_or_isFault` — every list of segments is read to its end or to a first fault
* `ofFolder_exact` — which folder names are accepted and as what, and the error of the others
-/

namespace ConfigBar

/-- The qualifiers that segments are read as. -/
def Qualifier.ofSegments (texts : List String) : List Qualifier :=
  texts.filterMap Qualifier.ofSegment?

namespace QualifierSet

/-- Are all segments recognised and of strictly ascending kinds? -/
structure AreOrdered (texts : List String) : Prop where
  recognized : ∀ text ∈ texts, (Qualifier.ofSegment? text).isSome = true
  ascending : (Qualifier.ofSegments texts).Pairwise fun a b => a.kind.index < b.kind.index

/-- What is wrong with a segment behind the segments `before`. A kind that has occurred before is a
duplicate, also if a later kind has occurred as well. -/
inductive IsFault (before : List String) (text : String) : QualifierError → Prop where
  | unrecognized : Qualifier.ofSegment? text = none → IsFault before text (.unrecognized text)
  | duplicate {q earlier : Qualifier} : Qualifier.ofSegment? text = some q →
      earlier ∈ Qualifier.ofSegments before → earlier.kind = q.kind →
        IsFault before text (.duplicate q.kind)
  | outOfOrder {q later : Qualifier} : Qualifier.ofSegment? text = some q →
      (∀ p ∈ Qualifier.ofSegments before, p.kind ≠ q.kind) →
        later ∈ Qualifier.ofSegments before → q.kind.index < later.kind.index →
          IsFault before text (.outOfOrder text)

variable {before texts rest : List String} {text : String} {q : Qualifier}

/-! ## The segments of a text -/

/-- A text falls into segments: it is cut at all dashes, and what is left of the parts without the
blanks around them are the segments, except for empty ones. -/
def AreSegments (text : String) (texts : List String) : Prop :=
  ∃ parts cores : List String, parts ≠ [] ∧ (∀ part ∈ parts, '-' ∉ part.toList) ∧
    "-".intercalate parts = text ∧
    List.Forall₂ (fun core part => Text.IsCore core.toList part.toList) cores parts ∧
    texts = cores.filter (· ≠ "")

theorem exists_parts (text : String) : ∃ parts : List String,
    parts ≠ [] ∧ (∀ part ∈ parts, '-' ∉ part.toList) ∧ "-".intercalate parts = text := by
  obtain ⟨hne, hdash, hjoined⟩ := Text.pieces_eq_iff.mp (rfl : Text.pieces '-' text.toList = _)
  refine ⟨(Text.pieces '-' text.toList).map String.ofList, by simpa using hne, fun part h => ?_,
    String.toList_injective ?_⟩
  · obtain ⟨cs, hcs, rfl⟩ := List.mem_map.mp h
    rw [String.toList_ofList]
    exact hdash cs hcs
  · have hid : String.toList ∘ String.ofList = id := funext fun _ => String.toList_ofList
    rw [String.toList_intercalate, List.map_map, hid, List.map_id]
    exact hjoined

theorem segments_intercalate {parts : List String} (hne : parts ≠ [])
    (hdash : ∀ part ∈ parts, '-' ∉ part.toList) :
    segments ("-".intercalate parts) = (parts.map Text.trim).filter (· ≠ "") := by
  have hpieces : Text.pieces '-' ("-".intercalate parts).toList = parts.map String.toList := by
    rw [String.toList_intercalate]
    refine Text.pieces_intercalate (by simpa using hne) fun cs hcs => ?_
    obtain ⟨part, hpart, rfl⟩ := List.mem_map.mp hcs
    exact hdash part hpart
  have htrim : parts.map Text.trim =
      ((parts.map String.toList).map Text.trimChars).map String.ofList := by
    rw [List.map_map, List.map_map]
    rfl
  unfold segments
  rw [hpieces, htrim]
  generalize (parts.map String.toList).map Text.trimChars = cores
  rw [List.filter_map]
  refine congrArg _ (List.filter_congr fun cs _ => ?_)
  simp

theorem forall₂_isCore_iff {cores parts : List String} :
    List.Forall₂ (fun core part => Text.IsCore core.toList part.toList) cores parts ↔
      cores = parts.map Text.trim := by
  have hcore : ∀ core part : String,
      Text.IsCore core.toList part.toList ↔ core = Text.trim part := by
    intro core part
    constructor
    · intro h
      rw [Text.trim, ← h.eq_trimChars, String.ofList_toList]
    · rintro rfl
      rw [Text.toList_trim]
      exact Text.isCore_trimChars part.toList
  simp only [hcore]
  rw [← List.forall₂_map_right_iff, List.forall₂_eq_eq_eq]

/-- A text falls into its segments, and into no others. -/
theorem segments_eq_iff : segments text = texts ↔ AreSegments text texts := by
  constructor
  · rintro rfl
    obtain ⟨parts, hne, hdash, rfl⟩ := exists_parts text
    exact ⟨parts, parts.map Text.trim, hne, hdash, rfl, forall₂_isCore_iff.mpr rfl,
      segments_intercalate hne hdash⟩
  · rintro ⟨parts, cores, hne, hdash, rfl, hcores, rfl⟩
    rw [forall₂_isCore_iff.mp hcores, segments_intercalate hne hdash]

/-! ## Ordered segments -/

theorem ofSegments_append_singleton (h : Qualifier.ofSegment? text = some q) :
    Qualifier.ofSegments (before ++ [text]) = Qualifier.ofSegments before ++ [q] := by
  simp [Qualifier.ofSegments, h]

theorem AreOrdered.nil : AreOrdered [] := ⟨by simp, .nil⟩

theorem AreOrdered.of_append (h : AreOrdered (before ++ rest)) : AreOrdered before where
  recognized t ht := h.recognized t (List.mem_append_left rest ht)
  ascending := by
    have hasc := h.ascending
    rw [Qualifier.ofSegments, List.filterMap_append, List.pairwise_append] at hasc
    exact hasc.1

/-- A segment goes on with ordered segments if it is of a later kind than all of them. -/
theorem areOrdered_append_singleton_iff :
    AreOrdered (before ++ [text]) ↔ AreOrdered before ∧ ∃ q, Qualifier.ofSegment? text = some q ∧
      ∀ p ∈ Qualifier.ofSegments before, p.kind.index < q.kind.index := by
  constructor
  · intro h
    obtain ⟨q, hq⟩ := Option.isSome_iff_exists.mp
      (h.recognized text (List.mem_append_right _ List.mem_cons_self))
    refine ⟨h.of_append, q, hq, fun p hp => ?_⟩
    have hasc := h.ascending
    rw [ofSegments_append_singleton hq, List.pairwise_append] at hasc
    exact hasc.2.2 p hp q List.mem_cons_self
  · rintro ⟨h, q, hq, hlt⟩
    refine ⟨fun t ht => ?_, ?_⟩
    · rcases List.mem_append.mp ht with ht | ht
      · exact h.recognized t ht
      · rw [List.mem_singleton.mp ht, hq]
        rfl
    · rw [ofSegments_append_singleton hq, List.pairwise_append]
      refine ⟨h.ascending, List.pairwise_singleton _ _, fun p hp p' hp' => ?_⟩
      rw [List.mem_singleton.mp hp']
      exact hlt p hp

/-- A segment behind ordered ones goes on with them or is at fault. -/
theorem areOrdered_or_isFault_singleton (h : AreOrdered before) (text : String) :
    AreOrdered (before ++ [text]) ∨ ∃ e, IsFault before text e := by
  cases hq : Qualifier.ofSegment? text with
  | none => exact Or.inr ⟨_, .unrecognized hq⟩
  | some q =>
    by_cases hdup : ∃ p ∈ Qualifier.ofSegments before, p.kind = q.kind
    · obtain ⟨p, hp, hk⟩ := hdup
      exact Or.inr ⟨_, .duplicate hq hp hk⟩
    · by_cases hlater : ∃ p ∈ Qualifier.ofSegments before, q.kind.index < p.kind.index
      · obtain ⟨p, hp, hlt⟩ := hlater
        exact Or.inr ⟨_, .outOfOrder hq (fun p hp hk => hdup ⟨p, hp, hk⟩) hp hlt⟩
      · refine Or.inl (areOrdered_append_singleton_iff.mpr ⟨h, q, hq, fun p hp => ?_⟩)
        have hne : p.kind.index ≠ q.kind.index := fun he =>
          hdup ⟨p, hp, Kind.index_injective he⟩
        have hle : ¬q.kind.index < p.kind.index := fun hlt => hlater ⟨p, hp, hlt⟩
        omega

/-- Segments behind ordered ones go on with them to the end or up to a first fault. -/
theorem areOrdered_or_isFault (h : AreOrdered before) (texts : List String) :
    AreOrdered (before ++ texts) ∨ ∃ middle text rest e, texts = middle ++ text :: rest ∧
      AreOrdered (before ++ middle) ∧ IsFault (before ++ middle) text e := by
  induction texts generalizing before with
  | nil => exact Or.inl (by rwa [List.append_nil])
  | cons t ts ih =>
    rcases areOrdered_or_isFault_singleton h t with ht | ⟨e, he⟩
    · rcases ih ht with hts | ⟨middle, text, rest, e, rfl, hmiddle, he⟩
      · exact Or.inl (by rwa [List.append_assoc] at hts)
      · rw [List.append_assoc] at hmiddle he
        exact Or.inr ⟨t :: middle, text, rest, e, rfl, hmiddle, he⟩
    · exact Or.inr ⟨[], t, ts, e, rfl, by rwa [List.append_nil], by rwa [List.append_nil]⟩

/-! ## Reading -/

/-- The kind of the last qualifier of a list. -/
def lastKind (qs : List Qualifier) : Option Kind := qs.getLast?.map Qualifier.kind

/-- Reads segments behind segments that have been read. -/
def readBehind (before texts : List String) : Except QualifierError QualifierSet :=
  readSegments (ofList (Qualifier.ofSegments before)) (lastKind (Qualifier.ofSegments before)) texts

/-- Of qualifiers of ascending kinds the last one is of the latest kind. -/
theorem isLater_lastKind {qs : List Qualifier} {k : Kind}
    (h : qs.Pairwise fun a b => a.kind.index < b.kind.index) :
    isLater (lastKind qs) k = true ↔ ∃ p ∈ qs, k.index < p.kind.index := by
  rcases List.eq_nil_or_concat qs with rfl | ⟨front, last, rfl⟩
  · simp [isLater, lastKind]
  · have hlast : isLater (lastKind (front ++ [last])) k = true ↔ k.index < last.kind.index := by
      simp [isLater, lastKind]
    rw [List.concat_eq_append] at *
    rw [hlast]
    constructor
    · intro hlt
      exact ⟨last, by simp, hlt⟩
    · rintro ⟨p, hp, hlt⟩
      rcases List.mem_append.mp hp with hp | hp
      · have := (List.pairwise_append.mp h).2.2 p hp last List.mem_cons_self
        omega
      · rwa [List.mem_singleton.mp hp] at hlt

/-- A segment at fault ends the reading. -/
theorem readBehind_of_isFault {e : QualifierError} (h : AreOrdered before)
    (he : IsFault before text e) : readBehind before (text :: rest) = .error e := by
  unfold readBehind
  rw [readSegments]
  cases he with
  | unrecognized hq => rw [hq]
  | @duplicate q earlier hq hmem hk =>
    rw [hq]
    exact if_pos (isSome_get?_ofList.mpr ⟨earlier, hmem, hk⟩)
  | @outOfOrder q later hq hfree hmem hlt =>
    have hnone : ¬((ofList (Qualifier.ofSegments before)).get? q.kind).isSome = true := by
      rw [isSome_get?_ofList]
      rintro ⟨p, hp, hk⟩
      exact hfree p hp hk
    rw [hq]
    exact (if_neg hnone).trans (if_pos ((isLater_lastKind h.ascending).mpr ⟨later, hmem, hlt⟩))

/-- A segment that goes on is added to what has been read. -/
theorem readBehind_cons (h : AreOrdered (before ++ [text])) :
    readBehind before (text :: rest) = readBehind (before ++ [text]) rest := by
  obtain ⟨hbefore, q, hq, hlt⟩ := areOrdered_append_singleton_iff.mp h
  have hnone : ¬((ofList (Qualifier.ofSegments before)).get? q.kind).isSome = true := by
    rw [isSome_get?_ofList]
    rintro ⟨p, hp, hk⟩
    exact Nat.ne_of_lt (hlt p hp) (congrArg Kind.index hk)
  have hlater : ¬isLater (lastKind (Qualifier.ofSegments before)) q.kind = true := by
    rw [isLater_lastKind hbefore.ascending]
    rintro ⟨p, hp, hlt'⟩
    exact Nat.lt_asymm hlt' (hlt p hp)
  have hset : (ofList (Qualifier.ofSegments before)).add q =
      ofList (Qualifier.ofSegments before ++ [q]) := by
    simp [ofList]
  have hlast : some q.kind = lastKind (Qualifier.ofSegments before ++ [q]) := by
    simp [lastKind]
  unfold readBehind
  rw [readSegments, hq, ofSegments_append_singleton hq, ← hset, ← hlast]
  exact (if_neg hnone).trans (if_neg hlater)

/-- Ordered segments are read. -/
theorem readBehind_append (h : AreOrdered (before ++ texts)) :
    readBehind before (texts ++ rest) = readBehind (before ++ texts) rest := by
  induction texts generalizing before with
  | nil => rw [List.nil_append, List.append_nil]
  | cons t ts ih =>
    have hsplit : before ++ t :: ts = before ++ [t] ++ ts := by simp
    rw [hsplit] at h ⊢
    rw [List.cons_append, readBehind_cons h.of_append, ih h]

/-- Ordered segments are read as the set of their qualifiers. -/
theorem ofFolder_of_areOrdered {text : String} (h : AreOrdered (segments text)) :
    ofFolder text = .ok (ofList (Qualifier.ofSegments (segments text))) := by
  have hread : readBehind [] (segments text ++ []) = readBehind ([] ++ segments text) [] :=
    readBehind_append h
  rw [List.append_nil] at hread
  exact hread

/-- The first fault is the error. -/
theorem ofFolder_of_isFault {text segment : String} {e : QualifierError}
    (hsplit : segments text = before ++ segment :: rest) (h : AreOrdered before)
    (he : IsFault before segment e) : ofFolder text = .error e := by
  have hread : readBehind [] (before ++ segment :: rest) =
      readBehind ([] ++ before) (segment :: rest) := readBehind_append h
  rw [← hsplit, List.nil_append, readBehind_of_isFault h he] at hread
  exact hread

/-- What is accepted is ordered, and the set holds its qualifiers. -/
theorem areOrdered_of_ofFolder {text : String} {s : QualifierSet} (h : ofFolder text = .ok s) :
    AreOrdered (segments text) ∧ s.toList = Qualifier.ofSegments (segments text) := by
  rcases areOrdered_or_isFault AreOrdered.nil (segments text) with
    hordered | ⟨before, segment, rest, e, hsplit, hbefore, he⟩
  · rw [ofFolder_of_areOrdered hordered] at h
    cases h
    exact ⟨hordered, toList_ofList hordered.ascending⟩
  · rw [ofFolder_of_isFault hsplit hbefore he] at h
    cases h

/-- What is not accepted has a first fault, and that is the error. -/
theorem exists_isFault_of_ofFolder {text : String} {e : QualifierError}
    (h : ofFolder text = .error e) :
    ∃ before segment rest, segments text = before ++ segment :: rest ∧ AreOrdered before ∧
      IsFault before segment e := by
  rcases areOrdered_or_isFault AreOrdered.nil (segments text) with
    hordered | ⟨before, segment, rest, e', hsplit, hbefore, he⟩
  · rw [ofFolder_of_areOrdered hordered] at h
    cases h
  · rw [ofFolder_of_isFault hsplit hbefore he] at h
    cases h
    exact ⟨before, segment, rest, hsplit, hbefore, he⟩

/-- **A folder name is accepted exactly if its segments are recognised and of strictly ascending
kinds**, and then the set holds their qualifiers. Otherwise the error is the fault of the first
segment that does not go on with those before it. The segments are what the text falls into. -/
theorem ofFolder_exact (text : String) :
    (∀ texts, segments text = texts ↔ AreSegments text texts) ∧
      ((∃ s, ofFolder text = .ok s) ↔ AreOrdered (segments text)) ∧
      (∀ s, ofFolder text = .ok s ↔
        AreOrdered (segments text) ∧ s.toList = Qualifier.ofSegments (segments text)) ∧
      ∀ e, ofFolder text = .error e ↔
        ∃ before segment rest, segments text = before ++ segment :: rest ∧ AreOrdered before ∧
          IsFault before segment e := by
  refine ⟨fun _ => segments_eq_iff, ⟨?_, fun h => ⟨_, ofFolder_of_areOrdered h⟩⟩,
    fun s => ⟨areOrdered_of_ofFolder, ?_⟩, fun e => ⟨exists_isFault_of_ofFolder, ?_⟩⟩
  · rintro ⟨s, hs⟩
    exact (areOrdered_of_ofFolder hs).1
  · rintro ⟨h, hs⟩
    rw [ofFolder_of_areOrdered h, ← hs, ofList_toList]
  · rintro ⟨before, segment, rest, hsplit, hbefore, he⟩
    exact ofFolder_of_isFault hsplit hbefore he

/-- A kind that occurs again is a duplicate, also behind a later kind. -/
example : ofFolder "en- port -en-v4" = .error (.duplicate .language) := rfl

end QualifierSet

end ConfigBar
