import Mathlib.Data.List.DropRight
import TrustGate.Net.Subject

/-!
# Host names label by label

Patterns and hosts are compared as texts, but what a pattern covers is a matter of labels:

    labels name                    the labels of an ASCII name, in lower case and without the
                                   dots at its end
    LabelsCover pattern host       as many labels, the same but perhaps for the first one, which
                                   may be a wildcard for any label that is not empty

A pattern covers a host if its labels do              (dnsMatches_iff), so a wildcard stands for
exactly one label                                     (labelsCover_wildcard_iff).
Hosts that read as addresses are looked for among the addresses of a certificate only, and all
others among its DNS names only                       (matchesAny_ofHost_iff).
-/

namespace TrustGate

/-! ## Lower case -/

def IsAsciiText (s : String) : Prop := ∀ c ∈ s.toList, c.toNat < 128

instance (s : String) : Decidable (IsAsciiText s) :=
  List.decidableBAll (fun c : Char => c.toNat < 128) s.toList

theorem Text.lowerAfter_of_ascii {cs : List Char} (h : ∀ c ∈ cs, c.toNat < 128)
    (before : List Char) : lowerAfter before cs = cs.map Char.toLower := by
  induction cs generalizing before with
  | nil => rfl
  | cons c cs ih =>
    have hc : c.toNat < 128 := h c List.mem_cons_self
    have hsigma : c ≠ 'Σ' := by
      rintro rfl
      exact absurd hc (by decide)
    rw [lowerAfter, if_neg hsigma, ih (fun d hd => h d (List.mem_cons_of_mem c hd)), lowerChar,
      if_pos hc]
    rfl

namespace Net

/-! ## Splitting -/

theorem splitAt_injective (separator : Char) : Function.Injective (splitAt separator) := by
  intro cs ds h
  rw [← intercalate_splitAt separator cs, h, intercalate_splitAt]

theorem splitAt_of_not_mem {separator : Char} {cs : List Char} (h : separator ∉ cs) :
    splitAt separator cs = [cs] := by
  induction cs with
  | nil => rfl
  | cons c cs ih =>
    have hc : c ≠ separator := fun heq => h (heq ▸ List.mem_cons_self)
    rw [splitAt, if_neg hc, ih fun hmem => h (List.mem_cons_of_mem c hmem)]

theorem splitAt_append {separator : Char} {first : List Char} (h : separator ∉ first)
    (rest : List Char) :
    splitAt separator (first ++ separator :: rest) = first :: splitAt separator rest := by
  induction first with
  | nil => rw [List.nil_append, splitAt, if_pos rfl]
  | cons c first ih =>
    have hc : c ≠ separator := fun heq => h (heq ▸ List.mem_cons_self)
    rw [List.cons_append, splitAt, if_neg hc, ih fun hmem => h (List.mem_cons_of_mem c hmem)]

theorem splitAt_star (rest : List Char) :
    splitAt '.' ('*' :: '.' :: rest) = ['*'] :: splitAt '.' rest := by
  have hstar : '.' ∉ ['*'] := by decide
  exact splitAt_append hstar rest

/-! ## Labels -/

theorem rdropWhile_append {p : Char → Bool} {cs : List Char} (h : cs.rdropWhile p ≠ [])
    (front : List Char) : (front ++ cs).rdropWhile p = front ++ cs.rdropWhile p := by
  unfold List.rdropWhile at h ⊢
  rw [List.reverse_append, List.dropWhile_append, if_neg (by simpa using h), List.reverse_append,
    List.reverse_reverse]

/-- The labels of an ASCII name, in lower case and without the dots at its end. -/
def labels (name : String) : List (List Char) :=
  splitAt '.' ((name.toList.map Char.toLower).rdropWhile (· = '.'))

theorem labels_eq {name : String} (h : IsAsciiText name) :
    labels name = splitAt '.' (foldedName name) := by
  unfold labels foldedName Text.lower
  rw [Text.lowerAfter_of_ascii h]
  rfl

theorem labels_ne_nil (name : String) : labels name ≠ [] := splitAt_ne_nil _ _

theorem labels_wildcard {parent : String} (h : labels parent ≠ [[]]) :
    labels ("*." ++ parent) = ['*'] :: labels parent := by
  unfold labels at h ⊢
  have hne : (parent.toList.map Char.toLower).rdropWhile (· = '.') ≠ [] := by
    intro hempty
    exact h (by rw [hempty]; rfl)
  rw [String.toList_append, List.map_append, rdropWhile_append hne]
  exact splitAt_star _

/-- The labels of a pattern cover those of a host. -/
structure LabelsCover (pattern host : List (List Char)) : Prop where
  number : pattern.length = host.length
  others : pattern.tail = host.tail
  first : pattern.head? = host.head? ∨
    pattern.head? = some ['*'] ∧ pattern.length ≠ 1 ∧ host.head? ≠ some []

theorem labelsCover_cons_iff {p h : List Char} {ps hs : List (List Char)} :
    LabelsCover (p :: ps) (h :: hs) ↔ ps = hs ∧ (p = h ∨ p = ['*'] ∧ ps ≠ [] ∧ h ≠ []) := by
  constructor
  · intro hcover
    refine ⟨hcover.others, ?_⟩
    rcases hcover.first with hsame | ⟨hstar, hmore, hsome⟩
    · exact .inl (Option.some.inj hsame)
    · refine .inr ⟨Option.some.inj hstar, ?_, ?_⟩
      · rintro rfl
        exact hmore rfl
      · rintro rfl
        exact hsome rfl
  · rintro ⟨rfl, rfl | ⟨rfl, hmore, hsome⟩⟩
    · exact ⟨rfl, rfl, .inl rfl⟩
    · exact ⟨rfl, rfl, .inr ⟨rfl, by simpa using hmore, by simpa using hsome⟩⟩

/-- A wildcard stands for exactly one label. -/
theorem labelsCover_wildcard_iff {parent host : List (List Char)} (hparent : parent ≠ []) :
    LabelsCover (['*'] :: parent) host ↔ ∃ label, label ≠ [] ∧ host = label :: parent := by
  constructor
  · intro hcover
    cases host with
    | nil => cases hcover.number
    | cons label rest =>
      obtain ⟨rfl, rfl | ⟨-, -, hlabel⟩⟩ := labelsCover_cons_iff.mp hcover
      · exact ⟨['*'], List.cons_ne_nil _ _, rfl⟩
      · exact ⟨label, hlabel, rfl⟩
  · rintro ⟨label, hlabel, rfl⟩
    exact labelsCover_cons_iff.mpr ⟨rfl, .inr ⟨rfl, hparent, hlabel⟩⟩

/-- Without a wildcard in front, the labels that cover a host are its own. -/
theorem labelsCover_plain_iff {pattern host : List Char}
    (h : ∀ parent, pattern ≠ '*' :: '.' :: parent) :
    LabelsCover (splitAt '.' pattern) (splitAt '.' host) ↔ pattern = host := by
  obtain ⟨p, ps, hp⟩ := List.exists_cons_of_ne_nil (splitAt_ne_nil '.' pattern)
  obtain ⟨d, ds, hd⟩ := List.exists_cons_of_ne_nil (splitAt_ne_nil '.' host)
  rw [← (splitAt_injective '.').eq_iff, hp, hd, labelsCover_cons_iff, List.cons.injEq]
  constructor
  · rintro ⟨rfl, rfl | ⟨rfl, hmore, -⟩⟩
    · exact ⟨rfl, rfl⟩
    · -- more labels behind a wildcard: the pattern begins with a wildcard and a dot
      obtain ⟨q, qs, rfl⟩ := List.exists_cons_of_ne_nil hmore
      have hwhole := intercalate_splitAt '.' pattern
      rw [hp] at hwhole
      exact absurd hwhole.symm (h _)
  · rintro ⟨rfl, rfl⟩
    exact ⟨rfl, .inl rfl⟩

/-! ## Patterns -/

theorem foldedName_ne_append_dot (name : String) (front : List Char) :
    foldedName name ≠ front ++ ['.'] := by
  intro h
  have hne : (Text.lower name.toList).rdropWhile (· = '.') ≠ [] := by
    rw [show (Text.lower name.toList).rdropWhile (· = '.') = _ from h]
    simp
  refine List.rdropWhile_last_not _ _ hne ?_
  simp [show (Text.lower name.toList).rdropWhile (· = '.') = _ from h]

theorem takeWhile_first {first : List Char} (h : '.' ∉ first) (rest : List Char) :
    (first ++ '.' :: rest).takeWhile (· ≠ '.') = first := by
  have hall : ∀ c ∈ first, decide (c ≠ '.') = true := by
    intro c hc
    exact decide_eq_true fun heq => h (heq ▸ hc)
  rw [List.takeWhile_append_of_pos hall, List.takeWhile_cons_of_neg (by decide), List.append_nil]

theorem dnsMatches_of_wildcard {pattern host : String} {parent : List Char}
    (h : foldedName pattern = '*' :: '.' :: parent) :
    dnsMatches pattern host = true ↔
      LabelsCover (['*'] :: splitAt '.' parent) (splitAt '.' (foldedName host)) := by
  rw [labelsCover_wildcard_iff (splitAt_ne_nil '.' parent)]
  simp only [dnsMatches, h, Bool.and_eq_true, Bool.not_eq_true', List.isEmpty_eq_false_iff,
    beq_iff_eq]
  by_cases hdot : '.' ∈ foldedName host
  · obtain ⟨first, rest, hhost, hfirst⟩ := List.eq_append_cons_of_mem hdot
    rw [hhost, takeWhile_first hfirst, List.drop_left, splitAt_append hfirst]
    constructor
    · rintro ⟨hne, hrest⟩
      exact ⟨first, hne, by rw [← hrest, List.drop_one, List.tail_cons]⟩
    · rintro ⟨label, hne, heq⟩
      obtain ⟨rfl, hrest⟩ := List.cons.inj heq
      exact ⟨hne, splitAt_injective '.' hrest⟩
  · -- a host of one label has nothing to compare with the rest of the pattern
    have hwhole : (foldedName host).takeWhile (· ≠ '.') = foldedName host := by
      rw [List.takeWhile_eq_self_iff]
      intro c hc
      exact decide_eq_true fun heq => hdot (heq ▸ hc)
    rw [hwhole, List.drop_length, splitAt_of_not_mem hdot]
    constructor
    · rintro ⟨-, rfl⟩
      exact absurd h (foldedName_ne_append_dot pattern ['*'])
    · rintro ⟨label, -, heq⟩
      exact absurd (List.cons.inj heq).2.symm (splitAt_ne_nil '.' parent)

/-- A pattern covers a host if its labels do. -/
theorem dnsMatches_iff {pattern host : String} (hpattern : IsAsciiText pattern)
    (hhost : IsAsciiText host) :
    dnsMatches pattern host = true ↔ LabelsCover (labels pattern) (labels host) := by
  rw [labels_eq hpattern, labels_eq hhost]
  by_cases h : ∃ parent, foldedName pattern = '*' :: '.' :: parent
  · obtain ⟨parent, hparent⟩ := h
    rw [dnsMatches_of_wildcard hparent, hparent]
    rw [splitAt_star]
  · rw [labelsCover_plain_iff fun parent hparent => h ⟨parent, hparent⟩]
    unfold dnsMatches
    split
    · next parent hparent => exact absurd ⟨parent, hparent⟩ h
    · exact beq_iff_eq

/-! ## Hosts -/

theorem covers_iff {name subject : Subject} :
    name.covers subject = true ↔ (∃ ip, name = .address ip ∧ subject = .address ip) ∨
      ∃ pattern host, name = .dns pattern ∧ subject = .dns host ∧
        dnsMatches pattern host = true := by
  constructor
  · intro h
    cases subject <;> cases name
    case address.address => exact .inl ⟨_, congrArg _ (beq_iff_eq.mp h).symm, rfl⟩
    case dns.dns => exact .inr ⟨_, _, rfl, rfl, h⟩
    all_goals cases h
  · rintro (⟨ip, rfl, rfl⟩ | ⟨pattern, host, rfl, rfl, h⟩)
    · exact beq_self_eq_true ip
    · exact h

theorem matchesAny_address_iff {names : List Subject} {ip : IpAddress} :
    matchesAny names (.address ip) = true ↔ .address ip ∈ names := by
  unfold matchesAny
  simp [List.any_eq_true, covers_iff]

theorem matchesAny_dns_iff {names : List Subject} {host : String} :
    matchesAny names (.dns host) = true ↔
      ∃ pattern, .dns pattern ∈ names ∧ dnsMatches pattern host = true := by
  unfold matchesAny
  simp [List.any_eq_true, covers_iff]

theorem ofHost_of_read {host : String} {ip : IpAddress} (h : IpAddress.read? host = some ip) :
    Subject.ofHost host = .ok (.address ip) := by
  unfold Subject.ofHost
  rw [h]

theorem ofHost_of_ascii {host : String} (hread : IpAddress.read? host = none)
    (hhost : IsAsciiText host) : Subject.ofHost host = .ok (.dns host) := by
  unfold Subject.ofHost Subject.ofDnsName
  rw [hread]
  exact if_pos (by simpa [IsAsciiText] using hhost)

theorem isAsciiText_append {s t : String} (hs : IsAsciiText s) (ht : IsAsciiText t) :
    IsAsciiText (s ++ t) := by
  intro c hc
  rw [String.toList_append, List.mem_append] at hc
  exact hc.elim (hs c) (ht c)

/-- A host that reads as an address has to be one of the addresses; any other host has to be
covered by the labels of a DNS name.  In particular a wildcard stands for exactly one label. -/
theorem matchesAny_ofHost_iff {names : List Subject} {host : String}
    (hnames : ∀ name, .dns name ∈ names → IsAsciiText name) (hhost : IsAsciiText host) :
    (∃ s, Subject.ofHost host = .ok s ∧ (matchesAny names s = true ↔
      (∃ ip, IpAddress.read? host = some ip ∧ .address ip ∈ names) ∨
        IpAddress.read? host = none ∧
          ∃ name, .dns name ∈ names ∧ LabelsCover (labels name) (labels host))) ∧
      ∀ parent, IsAsciiText parent → labels parent ≠ [[]] →
        (dnsMatches ("*." ++ parent) host = true ↔
          ∃ label, label ≠ [] ∧ labels host = label :: labels parent) := by
  constructor
  · cases hread : IpAddress.read? host with
    | some ip =>
      refine ⟨.address ip, ofHost_of_read hread, ?_⟩
      rw [matchesAny_address_iff]
      simp
    | none =>
      refine ⟨.dns host, ofHost_of_ascii hread hhost, ?_⟩
      rw [matchesAny_dns_iff]
      constructor
      · rintro ⟨name, hmem, hmatches⟩
        exact .inr ⟨rfl, name, hmem, (dnsMatches_iff (hnames name hmem) hhost).mp hmatches⟩
      · rintro (⟨ip, hip, -⟩ | ⟨-, name, hmem, hcover⟩)
        · cases hip
        · exact ⟨name, hmem, (dnsMatches_iff (hnames name hmem) hhost).mpr hcover⟩
  · intro parent hascii hparent
    have hpattern : IsAsciiText ("*." ++ parent) :=
      isAsciiText_append (show IsAsciiText "*." by decide) hascii
    rw [dnsMatches_iff hpattern hhost, labels_wildcard hparent,
      labelsCover_wildcard_iff (labels_ne_nil parent)]

/-- A certificate for an address and for every host below one domain. -/
def presented : List Subject := [.address (.v4 2130706433), .dns "*.Example.org."]

/-- Letter case and trailing dots aside, a host below that domain is covered. -/
theorem matchesAny_ofHost_below_domain :
    (∀ name, .dns name ∈ presented → IsAsciiText name) ∧ IsAsciiText "WWW.example.org.." ∧
      ∃ s, Subject.ofHost "WWW.example.org.." = .ok s ∧ matchesAny presented s = true := by
  have hascii : IsAsciiText "*.Example.org." ∧ IsAsciiText "WWW.example.org.." := by decide
  have hnames : ∀ name, .dns name ∈ presented → IsAsciiText name := by
    intro name hname
    simp only [presented, List.mem_cons, Subject.dns.injEq, List.not_mem_nil, or_false,
      reduceCtorEq, false_or] at hname
    exact hname ▸ hascii.1
  obtain ⟨⟨s, hs, hiff⟩, -⟩ := matchesAny_ofHost_iff hnames hascii.2
  have hread : IpAddress.read? "WWW.example.org.." = none := by decide
  have hcover : LabelsCover (labels "*.Example.org.") (labels "WWW.example.org..") :=
    ⟨by decide, by decide, by decide⟩
  exact ⟨hnames, hascii.2, s, hs, hiff.mpr (.inr ⟨hread, _, by simp [presented], hcover⟩)⟩

end Net

end TrustGate
