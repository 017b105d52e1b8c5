import RouteServer.Proofs.Command.Lines
import RouteServer.Proofs.Command.Selection
import RouteServer.Proofs.Text.Spacing

/-! # A description without a code

Behind a word that stands for a code there would have to be a shorter description. There is none: a description
with one more word is either no description any more, or its last word was the key of the value. So a line
that lacks the code is refused, whatever the value at its end looks like.
-/

namespace RouteServer.Command

open Session (Provider Table)

/-! ## Descriptions are not extended by a word -/

theorem QualifiersSaid.length {ws : List String} {qs : List Qualifier} (h : QualifiersSaid ws qs) :
    ws.length = 2 * qs.length := by
  induction h with
  | nil => rfl
  | cons key value q hq ws qs hrest ih =>
    simp only [List.length_cons, ih]
    omega

namespace Selector

/-- A star stands alone, and behind an address the words come in pairs. -/
theorem Said.parity {first : String} {rest : List String} {s : Selector} (h : Said (first :: rest) s) :
    if first = "*" then rest = [] else rest.length % 2 = if first = "neighbor" then 1 else 0 := by
  cases h with
  | any => rfl
  | peer _ address haddress _ qs hrest =>
    have hstar : first ≠ "*" := by
      rintro rfl
      cases haddress
    have hneighbor : first ≠ "neighbor" := by
      rintro rfl
      cases haddress
    rw [if_neg hstar, if_neg hneighbor, hrest.length]
    omega
  | neighbor word address haddress ws qs hrest =>
    rw [if_neg (by decide), if_pos rfl, List.length_cons, hrest.length]
    omega

theorem Said.not_said_concat {ws : List String} {s : Selector} (h : Said ws s) (word : String)
    (s' : Selector) : ¬ Said (ws ++ [word]) s' := by
  intro h'
  obtain ⟨first, rest, rfl⟩ : ∃ first rest, ws = first :: rest := by
    cases h <;> exact ⟨_, _, rfl⟩
  rw [List.cons_append] at h'
  have hshort := h.parity
  have hlong := h'.parity
  split at hshort
  · rename_i hstar
    rw [if_pos hstar] at hlong
    exact List.append_ne_nil_of_right_ne_nil rest (List.cons_ne_nil word []) hlong
  · rename_i hstar
    rw [if_neg hstar, List.length_append, List.length_singleton] at hlong
    omega

/-! ## Descriptions of several selectors -/

theorem parseAll_eq_mapM (description : String) :
    parseAll description =
      (Text.pieceWords ',' description.toList).mapM fun ws => ofWords (ws.map .ofList) := by
  simp [parseAll, Text.splitOnChar, Text.pieceWords, List.mapM_map, Function.comp_def, Text.words]

theorem parseAll_unwords_words (description : String) :
    parseAll (Text.unwords (Text.words description)) = parseAll description := by
  rw [parseAll_eq_mapM, parseAll_eq_mapM, Text.pieceWords_unwords_words rfl]

theorem said_of_mem {description : String} {selectors : List Selector}
    (h : parseAll description = .ok selectors) {ws : List (List Char)}
    (hws : ws ∈ Text.pieceWords ',' description.toList) : ∃ s, Said (ws.map .ofList) s := by
  rw [parseAll_eq_mapM] at h
  obtain ⟨s, hs⟩ := exists_of_mapM_eq_ok h hws
  exact ⟨s, ofWords_eq_ok_iff.mp hs⟩

/-- A word without a comma belongs to the last selector, and what is before it is no description. -/
theorem parseAll_front {front word : String} (hword : Text.IsWord word) (hcomma : ',' ∉ word.toList)
    {selectors : List Selector} (h : parseAll (front ++ " " ++ word) = .ok selectors) :
    ∃ cause, parseAll front = .error cause := by
  cases hfront : parseAll front with
  | error cause => exact ⟨cause, rfl⟩
  | ok others =>
    have hne := Text.pieceWords_ne_nil ',' front.toList
    have hwhole : Text.pieceWords ',' (front ++ " " ++ word).toList =
        (Text.pieceWords ',' front.toList).dropLast ++
          [(Text.pieceWords ',' front.toList).getLast hne ++ [word.toList]] := by
      have hlast : Text.pieceWords ',' word.toList = [[word.toList]] := by
        rw [Text.pieceWords, List.splitOn_eq_singleton hcomma, List.map_singleton, Text.wordChars_word hword]
      have htext : (front ++ " " ++ word).toList = front.toList ++ ' ' :: word.toList := by simp
      rw [htext, Text.pieceWords_append_blank rfl rfl, hlast, Text.joinEnds, List.getLastD_eq_getLast?,
        List.getLast?_eq_some_getLast hne]
      rfl
    obtain ⟨s, hs⟩ := said_of_mem hfront (List.getLast_mem hne)
    obtain ⟨s', hs'⟩ := said_of_mem h (hwhole ▸ List.mem_append_right _ (List.mem_singleton_self _))
    rw [List.map_append] at hs'
    exact absurd hs' (hs.not_said_concat _ s')

end Selector

/-! ## The line -/

theorem ShowNeighbor.words_descriptor {P : Type} :
    (ShowNeighbor.descriptor : Descriptor P Listing).words = ["show", "neighbor"] := by
  change Text.words "show neighbor" = ["show", "neighbor"]
  decide +kernel

namespace Teardown

theorem isWord_of_isCode {word : String} {code : UInt32} (h : Decimal.IsCode word code) : Text.IsWord word where
  nonempty := h.nonempty
  unbroken c hc := Text.isBlank_of_isDigit (h.digits c hc)

theorem comma_notMem_of_isCode {word : String} {code : UInt32} (h : Decimal.IsCode word code) :
    ',' ∉ word.toList := by
  intro hmem
  cases h.digits ',' hmem

theorem front_refused {description front word : String} {code : UInt32} {selectors : List Selector}
    (h : Selector.parseAll description = .ok selectors)
    (hcut : Text.unwords (Text.words description) = front ++ " " ++ word) (hcode : Decimal.IsCode word code) :
    ∃ cause, Selector.parseAll front = .error cause := by
  rw [← Selector.parseAll_unwords_words, hcut] at h
  exact Selector.parseAll_front (isWord_of_isCode hcode) (comma_notMem_of_isCode hcode) h

theorem refused_of_parseAll {description : String} {selectors : List Selector}
    (h : Selector.parseAll description = .ok selectors) :
    ∃ cause, Refused (Text.unwords (Text.words description)) cause := by
  rcases accepted_or_refused (Text.unwords (Text.words description)) with ⟨request, haccepted⟩ | hrefused
  · generalize hcut : Text.unwords (Text.words description) = arguments at haccepted
    obtain ⟨front, word, others, code, hword, hcode, hfront⟩ := haccepted
    obtain ⟨cause, herror⟩ := front_refused h hcut hcode
    cases hfront.symm.trans herror
  · exact hrefused

variable {P : Type} [Provider P] {registry : Registry P Listing}

theorem words_descriptor : (descriptor : Descriptor P Listing).words = ["teardown"] := by
  change Text.words "teardown" = ["teardown"]
  decide +kernel

theorem resolve_teardown (hregistry : Registry.standard = .ok registry) (ws : List String) :
    registry.resolve ("teardown" :: ws) = some descriptor := by
  have hteardown : (descriptor : Descriptor P Listing).begins ("teardown" :: ws) = true := by
    simp [Descriptor.begins, words_descriptor]
  have hshow : (ShowNeighbor.descriptor : Descriptor P Listing).begins ("teardown" :: ws) = false := by
    simp [Descriptor.begins, ShowNeighbor.words_descriptor, List.isPrefixOf]
  simp [Registry.resolve, Registry.standard_commands hregistry, hteardown, hshow, Registry.longer]

theorem words_line (description : String) :
    Text.words ("teardown " ++ description) = "teardown" :: Text.words description := by
  have hword : Text.words "teardown" = ["teardown"] := Text.words_word (by decide)
  have hcut : Text.words ("teardown" ++ " " ++ description) = _ := Text.words_append_space "teardown" description
  rwa [hword] at hcut

theorem dispatch_of_refused (hregistry : Registry.standard = .ok registry) {description : String}
    {cause : CommandError} (h : Refused (Text.unwords (Text.words description)) cause) (service : Service)
    (sessions : P) (configuration : Configuration) (scheduler : Schedule.Scheduler Listing) :
    let result := registry.dispatch service ("teardown " ++ description) sessions configuration scheduler
    result.outcome = .error (.failed "teardown" cause) ∧
      result.trace.written = [(service, .marker .error)] ∧
      result.sessions = sessions ∧ result.scheduler = scheduler := by
  have harguments : ((descriptor : Descriptor P Listing).invocation service
      ("teardown " ++ description)).arguments = Text.unwords (Text.words description) := by
    simp [Descriptor.invocation, words_line, words_descriptor]
  have hhandler : (descriptor : Descriptor P Listing).handler
      ((descriptor : Descriptor P Listing).invocation service ("teardown " ++ description)) sessions
      configuration = { sessions, outcome := .error cause } := by
    simp only [descriptor, handler] at harguments ⊢
    rw [harguments, parse_of_refused h]
  simp only [Registry.dispatch, words_line, resolve_teardown hregistry, hhandler]
  exact ⟨rfl, rfl, trivial, trivial⟩

/-- A description without a code behind it tears nothing down: the line is answered by the error marker, and
all sessions and requests are as before. No word at the end of a description is taken for a code, since no
description is left without it. -/
theorem codeless_line_refused {registry : Registry Table Listing}
    (hregistry : Registry.standard = .ok registry) {description : String} {selectors : List Selector}
    (h : Selector.parseAll description = .ok selectors) (service : Service) (t : Table)
    (configuration : Configuration) (scheduler : Schedule.Scheduler Listing) :
    let result := registry.dispatch service ("teardown " ++ description) t configuration scheduler
    (∃ cause, result.outcome = .error (.failed "teardown" cause)) ∧
      result.trace.written = [(service, .marker .error)] ∧
      result.sessions = t ∧ result.scheduler = scheduler ∧
      ∀ front word code, Text.unwords (Text.words description) = front ++ " " ++ word →
        Decimal.IsCode word code → ∃ cause, Selector.parseAll front = .error cause := by
  obtain ⟨cause, hrefused⟩ := refused_of_parseAll h
  obtain ⟨houtcome, hwritten, hsessions, hscheduler⟩ :=
    dispatch_of_refused hregistry hrefused service t configuration scheduler
  exact ⟨⟨cause, houtcome⟩, hwritten, hsessions, hscheduler, fun front word code hcut hcode =>
    front_refused h hcut hcode⟩

theorem family_not_taken_for_code :
    let description := "*,10.0.0.1 peer-as 65001  family-allowed 6"
    let front := "*,10.0.0.1 peer-as 65001 family-allowed"
    let registry : Registry Table Listing := { commands := [descriptor, ShowNeighbor.descriptor] }
    let n : Neighbor := { peerAddress := .v4 ⟨10, 0, 0, 1⟩, localAs := 65000, peerAs := 65001, holdTime := 180 }
    let t := (Table.ofConfiguration (.ofNeighbors [n])).update (Session.Key.ofNeighbor n) (.transition .established)
    let result := registry.dispatch ⟨1⟩ ("teardown " ++ description) t {} {}
    Registry.standard = .ok registry ∧
      Selector.parseAll description = .ok
        [.any, .peer (.v4 ⟨10, 0, 0, 1⟩) [.peerAs 65001, .familyAllowed "6"]] ∧
      t.established = [Session.Key.ofNeighbor n] ∧
      result.trace.written = [(⟨1⟩, .marker .error)] ∧ result.sessions = t ∧
      ∃ cause, Selector.parseAll front = .error cause := by
  intro description front registry n t result
  have hregistry : Registry.standard = .ok registry := by rfl
  have hdescription : Selector.parseAll description = .ok
      [.any, .peer (.v4 ⟨10, 0, 0, 1⟩) [.peerAs 65001, .familyAllowed "6"]] :=
    toOption_eq_some_iff.mp (by decide +kernel)
  have hcut : Text.unwords (Text.words description) = front ++ " " ++ "6" := by decide +kernel
  have hcode : Decimal.IsCode "6" 6 := Decimal.readCode?_eq_some_iff.mp (by decide)
  obtain ⟨-, hwritten, hsessions, -, hfront⟩ :=
    codeless_line_refused hregistry hdescription ⟨1⟩ t {} {}
  exact ⟨hregistry, hdescription, by decide +kernel, hwritten, hsessions, hfront front "6" 6 hcut hcode⟩

end Teardown

end RouteServer.Command
