import LeastPrivilege.Command.Run
import LeastPrivilege.Proofs.Decimal
import LeastPrivilege.Proofs.Run

/-!
Texts that can be shown in every width. Wrapping leaves the styles of a text as they are
(`Console.Marked.Known.wrap`), so a text is shown if its markup can be read and its styles are known
(`Console.render_of_known`). This holds of what a run announces, however many pods it is for
(`Run.announcement_shown`).
-/

namespace LeastPrivilege.Console

/-! ## Styles of wrapped texts -/

/-- The style of the stretch has a normal form, if there is one. -/
def Stretch.Known (s : Stretch) : Prop :=
  ∀ definition, s.style = some definition → ∃ normal, normalStyle definition = .ok normal

/-- The styles of the text have normal forms. -/
def Marked.Known (m : Marked) : Prop :=
  ∀ s ∈ m.stretches, s.Known

namespace Marked.Known

variable {m : Marked}

/-- A text whose stretches are some of another's, in other places, has no other styles. -/
theorem of_styles {m' : Marked} (h : m.Known)
    (hfrom : ∀ s' ∈ m'.stretches, ∃ s ∈ m.stretches, s'.style = s.style) : m'.Known := by
  intro s' hs' definition hstyle
  obtain ⟨s, hs, e⟩ := hfrom s' hs'
  exact h s hs definition (e ▸ hstyle)

theorem filterMap (h : m.Known) {f : Stretch → Option Stretch}
    (hf : ∀ s s', f s = some s' → s'.style = s.style) (text : Text) :
    Marked.Known { text, stretches := m.stretches.filterMap f } := by
  refine h.of_styles fun s' hs' => ?_
  obtain ⟨s, hs, e⟩ := List.mem_filterMap.mp hs'
  exact ⟨s, hs, hf s s' e⟩

theorem part (h : m.Known) (start stop : Nat) : (m.part start stop).Known := by
  refine h.filterMap (fun s s' e => ?_) _
  unfold Stretch.within? at e
  dsimp only at e
  split at e
  · cases e
    rfl
  · cases e

theorem before (h : m.Known) (stop : Nat) (text : Text) :
    Marked.Known { text, stretches := m.stretches.filterMap (·.before? stop) } := by
  refine h.filterMap (fun s s' e => ?_) text
  unfold Stretch.before? at e
  split at e
  · cases e
    rfl
  · cases e

theorem partsFrom (h : m.Known) : ∀ {places : List Nat} {start : Nat},
    ∀ piece ∈ m.partsFrom start places, piece.Known
  | [], start, piece, hpiece => by
    rw [List.mem_singleton.mp hpiece]
    exact h.part start _
  | stop :: rest, start, piece, hpiece => by
    cases List.mem_cons.mp hpiece with
    | inl here =>
      rw [here]
      exact h.part start stop
    | inr later => exact partsFrom h piece later

theorem cutAt (h : m.Known) (places : List Nat) : ∀ piece ∈ m.cutAt places, piece.Known := by
  intro piece hpiece
  unfold Marked.cutAt at hpiece
  split at hpiece
  · rwa [List.mem_singleton.mp hpiece]
  · exact h.partsFrom piece hpiece

theorem linesFrom (h : m.Known) : ∀ {places : List Nat} {start : Nat},
    ∀ line ∈ m.linesFrom start places, line.Known
  | [], start, line, hline => by
    rw [List.mem_singleton.mp hline]
    exact h.part start _
  | place :: rest, start, line, hline => by
    cases List.mem_cons.mp hline with
    | inl here =>
      rw [here]
      exact h.part start place
    | inr later => exact linesFrom h line later

theorem lines (h : m.Known) : ∀ line ∈ m.lines, line.Known := by
  intro line hline
  unfold Marked.lines at hline
  split at hline
  · rwa [List.mem_singleton.mp hline]
  · exact h.linesFrom line hline

theorem append {b : Marked} (h : m.Known) (hb : b.Known) : (m.append b).Known := by
  intro s hs
  cases List.mem_append.mp hs with
  | inl first => exact h s first
  | inr second =>
    obtain ⟨t, ht, rfl⟩ := List.mem_map.mp second
    exact hb t ht

theorem spaced (h : m.Known) (n : Nat) (extend : Bool) : (m.spaced n extend).Known := by
  refine h.of_styles fun s' hs' => ?_
  obtain ⟨s, hs, rfl⟩ := List.mem_map.mp hs'
  refine ⟨s, hs, ?_⟩
  split <;> rfl

theorem tabbed (h : m.Known) (cell : Nat) : (Marked.tabbed cell m).1.Known := by
  unfold Marked.tabbed
  split
  · have hspace : Marked.Known { m with text := m.text.dropLast ++ " " } := h
    exact hspace.spaced _ _
  · exact h

theorem joinTabbed : ∀ {pieces : List Marked} {cell : Nat}, (∀ piece ∈ pieces, piece.Known) →
    (Marked.joinTabbed cell pieces).Known
  | [], _, _ => fun _ => nofun
  | piece :: rest, cell, h => by
    obtain ⟨hpiece, hrest⟩ := List.forall_mem_cons.mp h
    exact (hpiece.tabbed cell).append (joinTabbed hrest)

theorem withoutTabs (h : m.Known) : m.withoutTabs.Known := by
  unfold Marked.withoutTabs
  split
  · exact h
  · have hcut := h.cutAt ((placesFrom '\t' 0 m.text).map (· + 1))
    refine joinTabbed fun piece hpiece => hcut piece ?_
    split at hpiece
    · exact (List.dropLast_sublist _).subset hpiece
    · exact hpiece

theorem trimmedTo (h : m.Known) (width : Nat) : (m.trimmedTo width).Known := by
  unfold Marked.trimmedTo
  dsimp only
  split
  · exact h
  · exact h.before _ _

theorem withText (h : m.Known) (text : Text) : (m.withText text).Known := by
  unfold Marked.withText
  split
  · exact h.before _ text
  · exact h

theorem cropped (h : m.Known) (o : Overflow) (width : Nat) : (m.cropped o width).Known := by
  unfold Marked.cropped
  split
  · exact h
  · cases o <;> exact h.withText _

/-- Wrapping leaves the styles as they are. -/
theorem wrap (h : m.Known) (o : Overflow) (width : Nat) : ∀ line ∈ m.wrap o width, line.Known := by
  intro line hline
  obtain ⟨whole, hwhole, hin⟩ := List.mem_flatMap.mp hline
  obtain ⟨piece, hpiece, rfl⟩ := List.mem_map.mp hin
  have hcut : piece.Known := (h.lines whole hwhole).withoutTabs.cutAt _ piece hpiece
  exact (hcut.trimmedTo width).cropped o width

end Marked.Known

theorem forM_eq_ok {α : Type} {f : α → Except Fault Unit} : ∀ {l : List α},
    (∀ a ∈ l, f a = .ok ()) → l.forM f = .ok ()
  | [], _ => rfl
  | a :: rest, h => by
    obtain ⟨ha, hrest⟩ := List.forall_mem_cons.mp h
    rw [List.forM_eq_forM, List.forM_cons, ha]
    exact forM_eq_ok hrest

theorem checkStyles_of_known {lines : List Marked} (h : ∀ m ∈ lines, m.Known) :
    checkStyles lines = .ok () := by
  refine forM_eq_ok fun m hm => forM_eq_ok fun s hs => ?_
  cases hstyle : s.style with
  | none => rfl
  | some definition =>
    obtain ⟨normal, hnormal⟩ := h m hm s hs definition hstyle
    show (normalStyle definition).map _ = _
    rw [hnormal]
    rfl

/-- Markup that can be read, with styles that are known, can be shown in every width. -/
theorem render_of_known {markup : Text} {m : Marked} (hmarked : marked markup = .ok m)
    (h : m.Known) (width : Nat) : ∃ lines, render width markup = .ok lines := by
  have hstyles := checkStyles_of_known (h.wrap .fold width)
  refine ⟨(m.wrap .fold width).map fun line => (fitSegments width false line.segments).flatten, ?_⟩
  unfold render
  rw [hmarked]
  show (checkStyles (m.wrap .fold width) >>= _) = _
  rw [hstyles]
  rfl

/-! ## Spans -/

/-- The name of a style, as a tag that is no action has it. -/
structure IsStyle (name : Text) : Prop where
  normal : normalStyle name = .ok name
  whole : splitGiven name = (name, none)
  trimmed : Text.trim name = name
  begins : name.head?.any (fun c => c != .char '/' && c != .char '@') = true

namespace Progress

variable {name : Text}

theorem tag_opens (hname : IsStyle name) (p : Progress) :
    p.tag name = .ok { p with active := ⟨name, none, p.length⟩ :: p.active } := by
  unfold tag
  rw [hname.whole]
  dsimp only
  split
  · exact absurd hname.begins (by simp)
  · rw [hname.normal]
    rfl

theorem tag_closes (hname : IsStyle name) (p : Progress) {start : Nat} {rest : List OpenTag}
    (hactive : p.active = ⟨name, none, start⟩ :: rest) :
    p.tag (.char '/' :: name) =
      .ok { p with active := rest, closed := ⟨start, p.length, some name⟩ :: p.closed } := by
  have hwhole : splitGiven (.char '/' :: name) = (.char '/' :: name, none) := by
    rw [splitGiven, if_neg (by decide), hname.whole]
  have hfilled : name.isEmpty = false := by
    cases hempty : name with
    | nil => exact absurd hname.begins (by rw [hempty]; decide)
    | cons c rest => rfl
  have hclosed : closed? name p.active = .ok (some (⟨name, none, start⟩, rest)) := by
    unfold closed?
    rw [hfilled, if_neg nofun, hname.normal, hactive]
    show Except.ok (if (name == name) = true then _ else _) = _
    rw [if_pos (beq_self_eq_true name)]
  have hplain : (name.head? == some (.char '@')) = false := by
    cases hhead : name.head? with
    | none => rfl
    | some c =>
      have hc := hname.begins
      rw [hhead, Option.any_some, Bool.and_eq_true, bne_iff_ne, bne_iff_ne] at hc
      exact beq_eq_false_iff_ne.mpr fun e => hc.2 (Option.some.inj e)
  unfold tag
  rw [hwhole]
  show (closed? (Text.trim name) p.active >>= _) = _
  rw [hname.trimmed, hclosed]
  show Except.ok _ = _
  rw [OpenTag.stretch, OpenTag.isAction, hplain, if_neg nofun]
  rfl

/-- Over a text between the tags of a style. -/
theorem parts_span (hname : IsStyle name) (p : Progress) (t : Text) (rest : List Part) :
    p.parts (.tag name :: .text t :: .tag (.char '/' :: name) :: rest) =
      (({ p with closed := ⟨p.length, p.length + (shownText t).length, some name⟩ :: p.closed } :
        Progress).shows (shownText t)).parts rest := by
  rw [parts, tag_opens hname]
  show parts _ (.text t :: .tag (.char '/' :: name) :: rest) = _
  rw [parts, parts, tag_closes hname _ rfl]
  rfl

/-- Where all tags are closed, the text has the styles of those. -/
theorem known_marked {p : Progress} (hactive : p.active = []) (hclosed : ∀ s ∈ p.closed, s.Known) :
    p.marked.Known := by
  intro s hs
  have hmem := List.mem_mergeSort.mp hs
  rw [hactive] at hmem
  exact hclosed s hmem

end Progress

theorem IsStyle.known {name : Text} (h : IsStyle name) (start stop : Nat) :
    Stretch.Known ⟨start, stop, some name⟩ := by
  intro definition e
  cases e
  exact ⟨name, h.normal⟩

/-- Markup whose tags are all closed, and name styles, has styles that are known. -/
theorem known_of_parts {markup : Text} (hmarkup : markup.contains (.char '[') = true)
    (hparts : ∃ p, Progress.parts {} (partsOf markup) = .ok p ∧ p.active = [] ∧
      ∀ s ∈ p.closed, s.Known) : ∃ m, marked markup = .ok m ∧ m.Known := by
  obtain ⟨p, hparts, hactive, hclosed⟩ := hparts
  refine ⟨p.marked, ?_, Progress.known_marked hactive hclosed⟩
  unfold marked
  rw [if_pos hmarkup, hparts]
  rfl

/-- Such markup can be shown in every width. -/
theorem render_of_parts {markup : Text} (hmarkup : markup.contains (.char '[') = true)
    (hparts : ∃ p, Progress.parts {} (partsOf markup) = .ok p ∧ p.active = [] ∧
      ∀ s ∈ p.closed, s.Known) (width : Nat) : ∃ lines, render width markup = .ok lines := by
  obtain ⟨m, hmarked, hknown⟩ := known_of_parts hmarkup hparts
  exact render_of_known hmarked hknown width

/-! ## Styles -/

/-- The colors in what a run says of itself. -/
def saidColors : List Text := ["cyan", "yellow", "green", "red"]

set_option maxRecDepth 20000 in
/-- Colors are found in the list without reading all of it. -/
theorem mem_colorNames : ∀ name ∈ saidColors, (Text.words colorNames).contains name = true := by
  have hnames : colorNames = List.map .char _ :=
    congrArg (List.map CodePoint.char) String.toList_ofList
  rw [hnames]
  decide +kernel

/-- A color that is one word in small letters is its own normal form. -/
theorem normalStyle_color {name : Text} (hcolor : (Text.words colorNames).contains name = true)
    (hwords : Text.words name = [name]) (hsmall : Text.small name = name)
    (hother : Text.trim name ≠ "none" ∧ name ≠ "on" ∧ name ≠ "not" ∧ name ≠ "link")
    (hattribute : attribute? name = none) : normalStyle name = .ok name := by
  obtain ⟨hnone, hon, hnot, hlink⟩ := hother
  have hisColor : isColor name = .ok true := by
    rw [isColor, if_pos hcolor]
  have hstyle : styleOnto {} [name] = .ok (some { color := some name }) := by
    unfold styleOnto
    rw [hsmall]
    dsimp only
    rw [if_neg hon, if_neg hnot, if_neg hlink, hattribute]
    dsimp only
    rw [hisColor]
    rfl
  have htext : ({ color := some name } : Style).text = name := by
    show Text.intercalate " " [name] = name
    simp [Text.intercalate, List.intercalate]
  unfold normalStyle
  rw [if_neg fun h => hnone (beq_iff_eq.mp h), hwords, hstyle]
  exact congrArg Except.ok htext

theorem isStyle_bold : IsStyle "bold" where
  normal := ok_of_toOption (by decide +kernel)
  whole := by decide
  trimmed := by decide
  begins := by decide

theorem isStyle_color {name : Text} (h : name ∈ saidColors) : IsStyle name where
  normal := by
    have hwords : ∀ name ∈ saidColors, Text.words name = [name] := by decide
    have hsmall : ∀ name ∈ saidColors, Text.small name = name := by decide +kernel
    have hother : ∀ name ∈ saidColors,
        Text.trim name ≠ "none" ∧ name ≠ "on" ∧ name ≠ "not" ∧ name ≠ "link" := by decide
    have hattribute : ∀ name ∈ saidColors, attribute? name = none := by decide +kernel
    exact normalStyle_color (mem_colorNames name h) (hwords name h) (hsmall name h) (hother name h)
      (hattribute name h)
  whole := (by decide : ∀ name ∈ saidColors, splitGiven name = (name, none)) name h
  trimmed := (by decide : ∀ name ∈ saidColors, Text.trim name = name) name h
  begins := (by decide : ∀ name ∈ saidColors,
    name.head?.any (fun c => c != .char '/' && c != .char '@') = true) name h

theorem isStyle_cyan : IsStyle "cyan" :=
  isStyle_color (by decide)

theorem isStyle_yellow : IsStyle "yellow" :=
  isStyle_color (by decide)

/-! ## Text without markup -/

/-- The text has no tag and no backslash. -/
def Unmarked (t : Text) : Prop :=
  ∀ c ∈ t, c ≠ .char '\\' ∧ c ≠ .char '['

theorem partsOnto_unmarked : ∀ {t : Text}, Unmarked t → ∀ (fuel : Nat) (before : Text),
    partsOnto fuel before 0 t = textPart (before.reverse ++ t)
  | t, _, 0, before => by
    rw [partsOnto, slashes, Text.replicate, List.replicate_zero, List.append_nil]
  | [], _, fuel + 1, before => by
    rw [partsOnto, slashes, Text.replicate, List.replicate_zero]
    exact nofun
  | c :: rest, h, fuel + 1, before => by
    obtain ⟨hc, hrest⟩ := List.forall_mem_cons.mp h
    rw [partsOnto, if_neg hc.1, if_neg hc.2]
    show partsOnto fuel (c :: before) 0 rest = _
    rw [partsOnto_unmarked hrest, List.reverse_cons, List.append_assoc]
    rfl

theorem Unmarked.of_digits {t : Text} (h : t.all Text.isDigit = true) : Unmarked t := by
  intro c hc
  have hdigit := List.all_eq_true.mp h c hc
  constructor <;> intro e <;> rw [e] at hdigit <;> exact absurd hdigit (by decide)

end LeastPrivilege.Console

namespace LeastPrivilege.Run

open Console

/-- What is announced about a number of pods can be shown in every width. -/
theorem announcement_shown (schema : Schema) (pods width : Nat) : ∃ lines, render width
    ("[bold]flowpolicy[/bold] generating [cyan]" ++ schema.name ++ "[/cyan] policies for "
      ++ Text.decimal pods ++ " pod(s)") = .ok lines := by
  have hrest : Unmarked (Text.decimal pods ++ " pod(s)") := by
    intro c hc
    cases List.mem_append.mp hc with
    | inl hdigit => exact Unmarked.of_digits (Text.all_isDigit_decimal pods) c hdigit
    | inr hlast =>
      have hplain : ∀ c ∈ (" pod(s)" : Text), c ≠ .char '\\' ∧ c ≠ .char '[' := by decide
      exact hplain c hlast
  rw [List.append_assoc _ (Text.decimal pods)]
  generalize (Text.decimal pods ++ " pod(s)" : Text) = rest at hrest
  have hparts : ∃ fuel, partsOf ("[bold]flowpolicy[/bold] generating [cyan]" ++ schema.name
      ++ "[/cyan] policies for " ++ rest) =
      [.tag "bold", .text "flowpolicy", .tag "/bold", .text " generating ", .tag "cyan",
        .text schema.name, .tag "/cyan"]
        ++ partsOnto fuel (List.reverse (" policies for " : Text)) 0 rest := by
    unfold partsOf
    rw [List.length_append, Nat.add_comm]
    cases schema with
    | standard => exact ⟨rest.length + 22, rfl⟩
    | cilium => exact ⟨rest.length + 22, rfl⟩
  obtain ⟨fuel, hparts⟩ := hparts
  rw [partsOnto_unmarked hrest, List.reverse_reverse] at hparts
  refine render_of_parts (by cases schema <;> rfl) ?_ width
  rw [hparts]
  have hbold := Progress.parts_span isStyle_bold {} "flowpolicy"
  have hcyan := fun p => Progress.parts_span isStyle_cyan p schema.name
  exact ⟨_, (hbold _).trans (hcyan _ _), rfl, List.forall_mem_cons.mpr ⟨isStyle_cyan.known _ _,
    List.forall_mem_cons.mpr ⟨isStyle_bold.known _ _, nofun⟩⟩⟩

theorem noPods_shown (width : Nat) :
    ∃ lines, render width "[yellow]No running pods found.[/yellow]" = .ok lines := by
  have hparts : partsOf "[yellow]No running pods found.[/yellow]" =
      [.tag "yellow", .text "No running pods found.", .tag "/yellow"] := by decide +kernel
  refine render_of_parts (by decide) ?_ width
  rw [hparts]
  exact ⟨_, Progress.parts_span isStyle_yellow _ _ _, rfl,
    List.forall_mem_cons.mpr ⟨isStyle_yellow.known _ _, nofun⟩⟩

end LeastPrivilege.Run
