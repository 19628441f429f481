import ConfigBar.Proofs.Controller.Protocol
import ConfigBar.Proofs.Locale.Codes
import ConfigBar.Proofs.Report.Names
/-!
# Typed and selected locales

A locale of the list can be selected by its index, or its label can be typed. In a catalog of codes
the two come to the same: the label is read as the locale of its entry, and the locale is found at
the place of the entry. So a selection that names a locale need not care whether it is listed.

* `takingLocale` — what both come to
* `perform_selectLocale_of_hasCodes`, `perform_typeLocale_label` — they do
* `choose_locale` — and so does the choice of a text that can be read
* `Lists` — controllers with the locales of a project, among which choices are made
* `locale_of_select`, `select_ne_refused` — the locale of a whole selection
* `typed_locale_agrees` — both, and what the report of a selection shows
-/

namespace ConfigBar

namespace LocaleCatalog

variable {project : Option Languages} {e : LocaleEntry}

/-- The entries of a project bear the labels of their locales, the sentinel apart. -/
theorem label_of_mem (he : e ∈ (ofProject project).entries) (hs : e.isSentinel = false) :
    e.label = e.locale.label := by
  cases project with
  | some languages =>
    rcases List.mem_append.mp he with he | he
    · obtain ⟨l, -, rfl⟩ := List.mem_map.mp he
      rfl
    · cases List.mem_singleton.mp he
      cases hs
  | none =>
    cases List.mem_singleton.mp he
    cases hs

/-- In a project of codes the label of an entry is read as its locale, with any blanks around it. -/
theorem parse_label (hcodes : project.all Languages.hasCodes = true)
    (he : e ∈ (ofProject project).entries) (hs : e.isSentinel = false) {front back : String}
    (hf : ∀ a ∈ front.toList, Text.isBlank a = true)
    (hb : ∀ a ∈ back.toList, Text.isBlank a = true) :
    Locale.parse (front ++ e.label ++ back) = .ok e.locale := by
  have hlocale : e.locale.hasCodes = true := hasCodes_of_mem hcodes he hs
  rw [label_of_mem he hs]
  exact Locale.parse_label hlocale hf hb

/-- The label of the sentinel cannot be read as a locale. -/
theorem parse_label_of_isSentinel (hcodes : project.all Languages.hasCodes = true)
    (he : e ∈ (ofProject project).entries) (hs : e.isSentinel = true) (l : Locale) :
    Locale.parse e.label ≠ .ok l := by
  have hread : ∀ label ∈ [LocaleEntry.anyLabel, LocaleEntry.otherLabel],
      (Locale.parse label).isOk = false := by decide
  have hlabel : e.label ∈ [LocaleEntry.anyLabel, LocaleEntry.otherLabel] := by
    cases project with
    | some languages =>
      rcases List.mem_append.mp he with he | he
      · -- a language of a project of codes is not called like the sentinel
        obtain ⟨m, hm, rfl⟩ := List.mem_map.mp he
        have hmem := language_mem_of_mem_locales hm
        rw [show m.language = localeSentinel from beq_iff_eq.mp hs] at hmem
        exact absurd hmem (sentinel_not_mem_of_hasCodes hcodes)
      · cases List.mem_singleton.mp he
        unfold LocaleEntry.sentinel
        dsimp only
        split <;> simp
    | none =>
      cases List.mem_singleton.mp he
      exact List.mem_cons_self
  intro hok
  have hnot := hread _ hlabel
  rw [hok] at hnot
  cases hnot

/-- In the catalog of a project of codes every entry is found at its own place. -/
theorem position?_of_hasCodes (hcodes : project.all Languages.hasCodes = true) {i : Nat}
    (he : (ofProject project).get? i = some e) :
    (ofProject project).position? (some e.language) e.region = some i := by
  refine position?_of_get? ?_ he
  cases project with
  | some languages => exact nodup_entries (sentinel_not_mem_of_hasCodes hcodes)
  | none => exact List.pairwise_singleton _ _

end LocaleCatalog

namespace Controller

variable {c next last : Controller} {project : Option Languages} {i : Nat} {e : LocaleEntry}

/-! ## One locale -/

/-- Outside of rebuilds a notice reaches the listener at once. -/
theorem telling_eq (h : c.depth = 0) (n : Notice) : c.telling n = ⟨c, c.deliver [n], .ok ()⟩ := by
  have hr : c.isRebuilding = false := isRebuilding_eq_false_iff.mpr h
  unfold telling tell
  simp [hr]

/-- The state in which a locale is in effect, with the index of its entry. -/
def withLocale (c : Controller) (l : Locale) : Controller :=
  { c with
    resolver := c.resolver.applyLocale (some (.language l.language)) (l.region.map .region)
    localeIndex := c.locales.position? (some l.language) l.region }

/-- What a request comes to that has a locale take effect. -/
def takingLocale (c : Controller) (l : Locale) : Controller × Answer :=
  (c.withLocale l, .single (.ok .done) (c.deliver [.configuration]) (c.withLocale l))

theorem locale_withLocale (c : Controller) (l : Locale) :
    (c.withLocale l).resolver.locale = (some l.language, l.region) :=
  c.resolver.locale_applyLocale l.language l.region

theorem answer_telling (hd : c.depth = 0) (l : Locale) :
    (((c.withLocale l).telling .configuration).answer fun _ => .done) = c.takingLocale l := by
  rw [telling_eq (c := c.withLocale l) hd]
  rfl

theorem perform_typeLocale (hd : c.depth = 0) {text : String} {l : Locale}
    (h : Locale.parse text = .ok l) : c.perform (.typeLocale text) = c.takingLocale l := by
  show (c.typeLocale text).answer _ = _
  rw [← answer_telling hd]
  simp only [typeLocale, h, withLocale]

/-- The selection of an entry that is found at its own place. -/
theorem perform_selectLocale (hd : c.depth = 0) (he : c.locales.get? i = some e)
    (hp : c.locales.position? (some e.language) e.region = some i) :
    c.perform (.selectLocale i) = c.takingLocale e.locale := by
  have hr : c.isRebuilding = false := isRebuilding_eq_false_iff.mpr hd
  show (c.selectLocale i).answer _ = _
  rw [← answer_telling hd]
  simp only [selectLocale, he, hr, withLocale, LocaleEntry.locale, hp]
  rfl

section Codes

variable (hd : c.depth = 0) (hl : c.locales = .ofProject project)
  (hcodes : project.all Languages.hasCodes = true)
include hd hl hcodes

theorem perform_selectLocale_of_hasCodes (he : c.locales.get? i = some e) :
    c.perform (.selectLocale i) = c.takingLocale e.locale := by
  refine perform_selectLocale hd he ?_
  rw [hl] at he ⊢
  exact LocaleCatalog.position?_of_hasCodes hcodes he

/-- The typing of the label of a listed locale, with any blanks around it. -/
theorem perform_typeLocale_label (he : c.locales.get? i = some e) (hs : e.isSentinel = false)
    {front back : String} (hf : ∀ a ∈ front.toList, Text.isBlank a = true)
    (hb : ∀ a ∈ back.toList, Text.isBlank a = true) :
    c.perform (.typeLocale (front ++ e.label ++ back)) = c.takingLocale e.locale := by
  have hmem : e ∈ (LocaleCatalog.ofProject project).entries := by
    rw [← hl]
    exact List.mem_of_getElem? he
  exact perform_typeLocale hd (LocaleCatalog.parse_label hcodes hmem hs hf hb)

/-- A selection that names a locale which can be read has it take effect, whether or not it is the
label of an entry. -/
theorem choose_locale {text : String} {l : Locale} (hparse : Locale.parse text = .ok l) :
    c.choose (.locale text) = .ok (c.withLocale l) := by
  have attempted : ∀ {r : Request}, c.perform r = c.takingLocale l →
      c.attempt r = .ok (c.withLocale l) := fun hr => by
    unfold attempt
    rw [hr]
    rfl
  have hlabels : c.locales.labels = c.locales.entries.map LocaleEntry.label := rfl
  obtain ⟨-, hi, -⟩ | ⟨i, e, -, hi, hget, hfind⟩ :=
    findIdx?_map_cases LocaleEntry.label text c.locales.entries
  · have hrequest : (Choice.locale text).request c = .ok (.typeLocale text) := by
      simp only [Choice.request, hlabels, hi]
    exact choose_eq_ok hrequest (attempted (perform_typeLocale hd hparse))
  · have hrequest : (Choice.locale text).request c = .ok (.selectLocale i) := by
      simp only [Choice.request, hlabels, hi]
    have hlabel : e.label = text := by simpa using List.find?_some hfind
    have hmem : e ∈ (LocaleCatalog.ofProject project).entries := by
      rw [← hl]
      exact List.mem_of_getElem? hget
    -- the label of the sentinel could not be read
    have hs : e.isSentinel = false := by
      rw [← hlabel] at hparse
      exact Bool.eq_false_iff.mpr fun hs =>
        LocaleCatalog.parse_label_of_isSentinel hcodes hmem hs l hparse
    have hlocale : e.locale = l := by
      have hread : Locale.parse ("" ++ e.label ++ "") = .ok e.locale :=
        LocaleCatalog.parse_label hcodes hmem hs (by simp) (by simp)
      rw [String.empty_append, String.append_empty, hlabel, hparse] at hread
      exact (Except.ok.inj hread).symm
    have hselect := perform_selectLocale_of_hasCodes hd hl hcodes hget
    rw [hlocale] at hselect
    exact choose_eq_ok hrequest (attempted hselect)

end Codes

/-! ## The locale of a selection -/

/-- Outside of rebuilds, with the locales of a project to choose from. -/
structure Lists (c : Controller) (project : Option Languages) : Prop where
  reachable : Reachable c
  depth_eq : c.depth = 0
  locales_eq : c.locales = .ofProject project

/-- A fresh controller that has taken over a provider. -/
theorem lists_ofProvider {p : Provider} (h : ofProvider p = .ok c) : c.Lists p.project := by
  obtain rfl := step_of_ofProvider h
  have hinitial : Reachable (initial false []) := .initial false []
  exact {
    reachable := hinitial.step _
    depth_eq := depth_step (quiet_of_reachable hinitial) _
    locales_eq := locales_eq_of_view (view_of_alike (alike_after (initial false []) rfl) .locale) }

/-- The resources are refused, or the choices are made with the locales of the project. -/
theorem select_cases (p : Provider) (o : Selection) :
    (∃ cause, select p o = .error (.start cause)) ∨
      ∃ start : Controller, start.Lists p.project ∧ select p o = start.chooseAll o.choices := by
  -- the equation of `select` takes Lean seconds to derive
  delta select
  cases hstart : ofProvider p with
  | ok start => exact Or.inr ⟨start, lists_ofProvider hstart, rfl⟩
  | error fault =>
    unfold ofProvider at hstart
    cases ha : (initial false []).attempt (.start p) with
    | error cause =>
      rw [ha] at hstart
      cases hstart
      exact Or.inl ⟨cause, rfl⟩
    | ok c =>
      rw [ha] at hstart
      cases hstart

/-- A choice takes nothing over from a provider. -/
theorem Lists.choose (hc : c.Lists project) {choice : Choice} (h : c.choose choice = .ok next) :
    next.Lists project := by
  obtain ⟨r, hr, -, rfl⟩ := exists_request_of_choose h
  obtain ⟨hsingle, hprovider, -⟩ := request_of_choice hr
  have hview := view_of_alike (alike_after c hsingle) .locale
  exact {
    reachable := hc.reachable.step r
    depth_eq := (depth_step (quiet_of_reachable hc.reachable) r).trans hc.depth_eq
    locales_eq := (locales_eq_of_view hview).trans ((locales_after hprovider).trans hc.locales_eq) }

theorem Lists.chooseAll {choices : List Choice} (hc : c.Lists project)
    (h : c.chooseAll choices = .ok next) : next.Lists project := by
  induction choices generalizing c with
  | nil =>
    cases h
    exact hc
  | cons choice rest ih =>
    rw [Controller.chooseAll] at h
    split at h
    · cases h
    · next mid hmid => exact ih (hc.choose hmid) h

/-- The choice that is refused is the one that is made. -/
theorem eq_of_choose_eq_refused {choice refused : Choice} {cause : ControllerError}
    (h : c.choose choice = .error (.refused refused cause)) : refused = choice := by
  unfold choose at h
  cases hr : choice.request c with
  | error fault =>
    rw [hr] at h
    cases h
    -- a name that is unknown is no refusal
    cases choice with
    | device name | locale text | theme name =>
      simp only [Choice.request] at hr
      split at hr <;> cases hr
    | _ => cases hr
  | ok r =>
    rw [hr] at h
    cases ha : c.attempt r with
    | error e =>
      simp only [ha] at h
      cases h
      rfl
    | ok next =>
      simp only [ha] at h
      cases h

/-- If one of several choices is refused, then in a state to which those before it have led. -/
theorem Lists.exists_refused {choices : List Choice} (hc : c.Lists project) {choice : Choice}
    {cause : ControllerError} (h : c.chooseAll choices = .error (.refused choice cause)) :
    ∃ mid : Controller, mid.Lists project ∧
      mid.choose choice = .error (.refused choice cause) := by
  induction choices generalizing c with
  | nil => cases h
  | cons first rest ih =>
    rw [Controller.chooseAll] at h
    split at h
    · next fault hfault =>
      cases h
      obtain rfl := eq_of_choose_eq_refused hfault
      exact ⟨c, hc, hfault⟩
    · next mid hmid => exact ih (hc.choose hmid) h

/-- The choices after that of the locale are about other facets. -/
theorem Lists.exists_located (hc : c.Lists project) {o : Selection}
    (h : c.chooseAll o.choices = .ok last) :
    ∃ varied located : Controller, varied.Lists project ∧
      varied.chooseAll (o.locale.map Choice.locale).toList = .ok located ∧
        last.view .locale = located.view .locale := by
  obtain ⟨themed, h, hclipping⟩ := exists_of_chooseAll_append h
  obtain ⟨versioned, h, htheme⟩ := exists_of_chooseAll_append h
  obtain ⟨located, h, hversion⟩ := exists_of_chooseAll_append h
  obtain ⟨varied, h, hlocale⟩ := exists_of_chooseAll_append h
  refine ⟨varied, located, hc.chooseAll h, hlocale, ?_⟩
  calc last.view .locale
      = themed.view .locale := view_of_chosen hclipping fun _ => nofun
    _ = versioned.view .locale := view_of_chosen htheme fun _ => nofun
    _ = located.view .locale := view_of_chosen hversion fun _ => nofun

/-- After a selection from a project of codes, a locale that can be read is in effect. -/
theorem locale_of_select {p : Provider} {o : Selection}
    (hcodes : p.project.all Languages.hasCodes = true) (h : select p o = .ok last) {text : String}
    (ho : o.locale = some text) {l : Locale} (hparse : Locale.parse text = .ok l) :
    last.resolver.locale = (some l.language, l.region) := by
  obtain ⟨cause, hstart⟩ | ⟨start, hlists, hselect⟩ := select_cases p o
  · rw [hstart] at h
    cases h
  · rw [hselect] at h
    obtain ⟨varied, located, hvaried, hlocated, hlast⟩ := hlists.exists_located h
    rw [ho] at hlocated
    have hchoose : varied.choose (.locale text) = .ok located :=
      (chooseAll_singleton _).symm.trans hlocated
    rw [choose_locale hvaried.depth_eq hvaried.locales_eq hcodes hparse] at hchoose
    rw [locale_eq_of_view hlast, ← Except.ok.inj hchoose]
    exact locale_withLocale varied l

/-- No selection from a project of codes is refused for a locale that can be read. -/
theorem select_ne_refused {p : Provider} (hcodes : p.project.all Languages.hasCodes = true)
    (o : Selection) {text : String} {l : Locale} (hparse : Locale.parse text = .ok l)
    (cause : ControllerError) : select p o ≠ .error (.refused (.locale text) cause) := by
  intro h
  obtain ⟨fault, hstart⟩ | ⟨start, hlists, hselect⟩ := select_cases p o
  · rw [hstart] at h
    cases h
  · rw [hselect] at h
    obtain ⟨mid, hmid, hrefused⟩ := hlists.exists_refused h
    rw [choose_locale hmid.depth_eq hmid.locales_eq hcodes hparse] at hrefused
    cases hrefused

end Controller

namespace Report

/-- The language and the region among the qualifiers of a report. -/
theorem mem_qualifiers_of_locale {c : Controller} {l : Locale}
    (h : c.resolver.locale = (some l.language, l.region)) (code : String) :
    (.language code ∈ (ofController c).qualifiers ↔ code = l.language) ∧
      (.region code ∈ (ofController c).qualifiers ↔ l.region = some code) := by
  obtain ⟨hlanguage, hregion⟩ := Prod.mk.inj h
  show (_ ∈ c.resolver.current.toList ↔ _) ∧ (_ ∈ c.resolver.current.toList ↔ _)
  rw [QualifierSet.mem_toList, QualifierSet.mem_toList]
  simp [Qualifier.kind, QualifierSet.get?, hlanguage, hregion, eq_comm]

/-- **A listed locale may as well be typed.** Outside of rebuilds, in a catalog of the locales of a
project of codes, the selection of an entry other than the sentinel and the typing of its label, with
any blanks around it, succeed, lead to the same state, in which the entry is selected and its
language and region are in effect, and tell the listener once of the configuration. So it makes no
difference for a selection whether a locale that can be read is listed: its choice is the typing of
it, which is never refused, and the report shows its language and its region. -/
theorem typed_locale_agrees :
    (∀ (c : Controller) (project : Option Languages) (i : Nat) (e : LocaleEntry)
        (front back : String),
      c.depth = 0 → c.locales = .ofProject project → project.all Languages.hasCodes = true →
      c.locales.get? i = some e → e.isSentinel = false →
      (∀ a ∈ front.toList, Text.isBlank a = true) → (∀ a ∈ back.toList, Text.isBlank a = true) →
        let selected : Request := .selectLocale i
        let typed : Request := .typeLocale (front ++ e.label ++ back)
        let told : List Signal := if c.listening then [.notice .configuration] else []
        c.results selected = [.ok .done] ∧ c.results typed = [.ok .done] ∧
          c.step typed = c.step selected ∧ (c.step selected).localeIndex = some i ∧
          (c.step selected).resolver.locale = (some e.language, e.region) ∧
          c.signals selected = told ∧ c.signals typed = told) ∧
      (∀ (c : Controller) (project : Option Languages) (text : String) (l : Locale),
        c.depth = 0 → c.locales = .ofProject project → project.all Languages.hasCodes = true →
        Locale.parse text = .ok l →
          c.choose (.locale text) = .ok (c.step (.typeLocale text)) ∧
            (c.step (.typeLocale text)).resolver.locale = (some l.language, l.region)) ∧
      ∀ (p : Provider) (o : Selection) (text : String) (l : Locale),
        p.project.all Languages.hasCodes = true → o.locale = some text →
        Locale.parse text = .ok l →
          (∀ cause, resolve p o ≠ .error (.refused (.locale text) cause)) ∧
            ∀ r, resolve p o = .ok r →
              ∀ code, (.language code ∈ r.qualifiers ↔ code = l.language) ∧
                (.region code ∈ r.qualifiers ↔ l.region = some code) := by
  refine ⟨?_, ?_, ?_⟩
  · intro c project i e front back hd hl hcodes he hs hf hb selected typed told
    have hselected : c.perform selected = c.takingLocale e.locale :=
      Controller.perform_selectLocale_of_hasCodes hd hl hcodes he
    have htyped : c.perform typed = c.takingLocale e.locale :=
      Controller.perform_typeLocale_label hd hl hcodes he hs hf hb
    have hindex : (c.withLocale e.locale).localeIndex = some i := by
      have hget : (LocaleCatalog.ofProject project).get? i = some e := hl ▸ he
      have hplace := LocaleCatalog.position?_of_hasCodes hcodes hget
      rw [← hl] at hplace
      exact hplace
    have hlocale := c.locale_withLocale e.locale
    unfold Controller.results Controller.step Controller.signals
    rw [hselected, htyped]
    exact ⟨rfl, rfl, rfl, hindex, hlocale, rfl, rfl⟩
  · intro c project text l hd hl hcodes hparse
    have hstep : c.step (.typeLocale text) = c.withLocale l :=
      congrArg Prod.fst (Controller.perform_typeLocale hd hparse)
    rw [hstep]
    exact ⟨Controller.choose_locale hd hl hcodes hparse, c.locale_withLocale l⟩
  · intro p o text l hcodes ho hparse
    unfold resolve
    cases hselect : Controller.select p o with
    | error fault =>
      refine ⟨fun cause hrefused => ?_, fun r hr => ?_⟩
      · cases hrefused
        exact Controller.select_ne_refused hcodes o hparse cause hselect
      · cases hr
    | ok c =>
      refine ⟨fun cause hrefused => ?_, fun r hr => ?_⟩
      · cases hrefused
      · cases hr
        exact mem_qualifiers_of_locale (Controller.locale_of_select hcodes hselect ho hparse)

/-- With blanks around it the label of the third of four locales is typed, and a selection names a
locale that is listed, or one that is not. -/
theorem typed_locale_agrees_of_padded_label :
    let p := Controller.localeProvider [("en", ["US", "GB"]), ("de", [])]
    let c := (Controller.initial true []).run [.updateResources p, .setVersion (some 4)]
    let typed : Request := .typeLocale ("\u00a0" ++ "en_GB" ++ " \t")
    let shows (text : String) (l : Locale) : Prop :=
      ∃ r, resolve p { Selection.none with locale := some text } = .ok r ∧
        .language l.language ∈ r.qualifiers ∧
          ∀ code, .region code ∈ r.qualifiers ↔ l.region = some code
    (c.step typed = c.step (.selectLocale 2) ∧ c.signals typed = [.notice .configuration]) ∧
      c.choose (.locale "fr_CA") = .ok (c.step (.typeLocale "fr_CA")) ∧
      shows "en_GB" ⟨"en", some "GB"⟩ ∧ shows "fr" ⟨"fr", none⟩ := by
  intro p c typed shows
  have hdepth : c.depth = 0 := by decide +kernel
  have hlocales : c.locales = .ofProject p.project := by decide +kernel
  have hcodes : p.project.all Languages.hasCodes = true := by decide +kernel
  obtain ⟨hlabel, hchoice, hreport⟩ := typed_locale_agrees
  obtain ⟨-, -, hstep, -, -, -, hsignals⟩ :=
    hlabel c p.project 2 ⟨"en_GB", "en", some "GB"⟩ "\u00a0" " \t" hdepth hlocales hcodes
      (by decide +kernel) rfl (by simp [Text.isBlank]) (by simp [Text.isBlank])
  have hshows : ∀ text l, Locale.parse text = .ok l →
      (resolve p { Selection.none with locale := some text }).toOption.isSome = true →
        shows text l := by
    intro text l hread hrun
    cases hr : resolve p { Selection.none with locale := some text } with
    | error fault =>
      rw [hr] at hrun
      cases hrun
    | ok r =>
      have hshown := (hreport p _ text l hcodes rfl hread).2 r hr
      exact ⟨r, hr, (hshown l.language).1.mpr rfl, fun code => (hshown code).2⟩
  refine ⟨⟨hstep, hsignals⟩, ?_, ?_, ?_⟩
  · exact (hchoice c p.project "fr_CA" ⟨"fr", some "CA"⟩ hdepth hlocales hcodes rfl).1
  · exact hshows "en_GB" _ rfl (by decide +kernel)
  · exact hshows "fr" _ rfl (by decide +kernel)

end Report

end ConfigBar
