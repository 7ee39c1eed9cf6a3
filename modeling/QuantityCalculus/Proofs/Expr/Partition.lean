/-
# The tokens of a text and the gaps between them

Nothing of a text is lost between its tokens, and nothing is read twice. In front of every token is
a gap, which may be empty, then come the characters of the token, and what follows starts right
behind them; the end has a gap in front of it as well. Whatever the marks are, letters, operators or
blanks, the gaps consist of spaces and tabs, and a token has neither of them, unless one is the
decimal mark.

A reader asks for one token after the other. Each time it goes over a gap and a token; at the end it
stays.

**Main statement.** `scan_partitions`.
-/

import QuantityCalculus.Proofs.Expr.Cut

namespace QuantityCalculus
namespace Token

open Text

/-! ### One token at a time -/

/-- A place in a text: its column, and the characters from there on. -/
structure Cursor where
  column : Nat
  rest : List Char

/-- The token behind the gap at a place, and the place behind the token. -/
def next (m : Marks) (place : Cursor) : Token × Cursor :=
  let gap := (takeRun isGap place.rest).1
  let start := place.column + gap.length
  match (takeRun isGap place.rest).2 with
  | [] => (⟨.endOfLine, "", start, !gap.isEmpty⟩, ⟨start, []⟩)
  | c :: rest =>
    let s := split m c rest
    (⟨s.1, String.ofList s.2.1, start, !gap.isEmpty⟩, ⟨start + s.2.1.length, s.2.2⟩)

/-- The token that is next when so many have been taken. -/
def nth (m : Marks) : Nat → Cursor → Token
  | 0, place => (next m place).1
  | n + 1, place => nth m n (next m place).2

/-! ### What a partition is -/

/-- The column behind a token. -/
def stop (t : Token) : Nat := t.column + t.content.length

/-- The characters from one column to another. -/
def between (cs : List Char) (start stop : Nat) : List Char := (cs.take stop).drop start

/-- The places where gaps start, each with the token behind the gap. -/
def gaps (start : Nat) (ts : List Token) : List (Nat × Token) := (start :: ts.map stop).zip ts

/-- The characters of a text from a column on are the tokens and the gaps between them. -/
structure Partitions (m : Marks) (cs : List Char) (start : Nat) (ts : List Token) : Prop where
  /-- the last token stands for the end, behind no more tokens than there are characters -/
  finishes : ∃ body afterGap, ts = body ++ [⟨.endOfLine, "", cs.length, afterGap⟩] ∧
    start + body.length ≤ cs.length ∧ ∀ t ∈ body, t.kind ≠ .endOfLine ∧ t.content ≠ ""
  /-- a token is what the text says in its column -/
  contents : ∀ t ∈ ts, t.content.toList = between cs t.column t.stop
  /-- each token is further to the right than those before it -/
  ascends : ts.Pairwise (·.column < ·.column)
  /-- behind a token is a run of spaces and tabs, and the next token tells if there are any -/
  apart : ∀ g ∈ gaps start ts, g.1 ≤ g.2.column ∧ IsGap (between cs g.1 g.2.column) ∧
    (g.2.afterGap = true ↔ g.1 < g.2.column)
  /-- what is in no token is a space or a tab -/
  uncovered : ∀ i c, start ≤ i → cs[i]? = some c →
    (∀ t ∈ ts, ¬ (t.column ≤ i ∧ i < t.stop)) → isGap c = true
  /-- what is in a token is neither, except for a decimal mark -/
  covered : ∀ t ∈ ts, ∀ c ∈ t.content.toList, isGap c = true → m.decimal = some c
  /-- the gaps and the tokens are the text -/
  joined : cs.drop start = (gaps start ts).flatMap fun g =>
    between cs g.1 g.2.column ++ g.2.content.toList

variable {m : Marks} {column : Nat} {cs gap : List Char} {ts : List Token}

theorem between_append (before middle after : List Char) :
    between (before ++ (middle ++ after)) before.length (before.length + middle.length) =
      middle := by
  rw [between, List.take_length_add_append, List.take_left, List.drop_left]

theorem between_gap (before gap : List Char) :
    between (before ++ gap) before.length (before.length + gap.length) = gap := by
  simpa using between_append before gap []

theorem gaps_cons (start : Nat) (t : Token) (ts : List Token) :
    gaps start (t :: ts) = (start, t) :: gaps t.stop ts :=
  rfl

theorem stop_ofList (k : TokenKind) (word : List Char) (column : Nat) (afterGap : Bool) :
    stop ⟨k, String.ofList word, column, afterGap⟩ = column + word.length := by
  simp [stop]

/-- No token starts before the characters do. -/
theorem Scans.le_column (h : Scans m column cs ts) : ∀ t ∈ ts, column ≤ t.column := by
  induction h with
  | stop _ => simp
  | token _ _ _ ih =>
    intro t ht
    rcases List.mem_cons.1 ht with rfl | ht
    · exact Nat.le_add_right ..
    · exact Nat.le_trans (by omega) (ih t ht)

/-- In a token that does not start with a gap, a space or a tab is the decimal mark. -/
theorem split_covered (m : Marks) {c : Char} (rest : List Char) (hc : isGap c = false) :
    ∀ d ∈ (split m c rest).2.1, isGap d = true → m.decimal = some d := by
  intro d hd hgap
  rcases split_blank m c rest d hd (isBlank_of_isGap hgap) with h | ⟨rfl, -⟩
  · exact h
  · cases hgap.symm.trans hc

/-! ### Partitions, token by token -/

/-- Behind the last token is only a gap. -/
theorem Partitions.stop (before : List Char) (hg : IsGap gap) :
    Partitions m (before ++ gap) before.length
      [⟨.endOfLine, "", before.length + gap.length, !gap.isEmpty⟩] where
  finishes := ⟨[], !gap.isEmpty, by simp, by simp, by simp⟩
  contents t ht := by
    cases List.mem_singleton.1 ht
    simp [between, Token.stop]
  ascends := List.pairwise_singleton ..
  apart g hmem := by
    cases List.mem_singleton.1 hmem
    refine ⟨Nat.le_add_right .., by rwa [between_gap], ?_⟩
    cases gap <;> simp
  uncovered i c hi hc _ := by
    rw [List.getElem?_append_right hi] at hc
    exact hg c (List.mem_of_getElem? hc)
  covered t ht c hc := by
    cases List.mem_singleton.1 ht
    cases hc
  joined := by
    rw [gaps_cons, List.flatMap_cons, between_gap, List.drop_left]
    simp [gaps]

/-- In front of a partition there may be a gap and a token. -/
theorem Partitions.token {k : TokenKind} {word after : List Char} (before : List Char)
    (hg : IsGap gap) (hword : word ≠ []) (hk : k ≠ .endOfLine)
    (hcovered : ∀ c ∈ word, isGap c = true → m.decimal = some c)
    (hle : ∀ t ∈ ts, before.length + gap.length + word.length ≤ t.column)
    (h : Partitions m (before ++ (gap ++ (word ++ after)))
      (before.length + gap.length + word.length) ts) :
    Partitions m (before ++ (gap ++ (word ++ after))) before.length
      (⟨k, String.ofList word, before.length + gap.length, !gap.isEmpty⟩ :: ts) := by
  have hpos : 0 < word.length := List.length_pos_iff.2 hword
  have hgap : between (before ++ (gap ++ (word ++ after))) before.length
      (before.length + gap.length) = gap := between_append ..
  have hcontent : between (before ++ (gap ++ (word ++ after))) (before.length + gap.length)
      (before.length + gap.length + word.length) = word := by
    simpa using between_append (before ++ gap) word after
  refine ⟨?finishes, ?contents, ?ascends, ?apart, ?uncovered, ?covered, ?joined⟩
  case finishes =>
    obtain ⟨body, afterGap, hts, hlength, hbody⟩ := h.finishes
    refine ⟨_ :: body, afterGap, by rw [hts]; rfl, ?_, ?_⟩
    · rw [List.length_cons]
      omega
    · exact List.forall_mem_cons.2 ⟨⟨hk, by simpa using hword⟩, hbody⟩
  case contents =>
    refine List.forall_mem_cons.2 ⟨?_, h.contents⟩
    rw [stop_ofList, hcontent, String.toList_ofList]
  case ascends =>
    refine List.pairwise_cons.2 ⟨fun t ht => ?_, h.ascends⟩
    have := hle t ht
    show before.length + gap.length < t.column
    omega
  case apart =>
    rw [gaps_cons, stop_ofList]
    refine List.forall_mem_cons.2 ⟨⟨Nat.le_add_right .., ?_, ?_⟩, h.apart⟩
    · show IsGap (between _ before.length (before.length + gap.length))
      rwa [hgap]
    · cases gap <;> simp
  case uncovered =>
    intro i c hi hc hnone
    obtain ⟨hfirst, hrest⟩ := List.forall_mem_cons.1 hnone
    rw [stop_ofList] at hfirst
    by_cases hin : i < before.length + gap.length
    · rw [List.getElem?_append_right hi, List.getElem?_append_left (by omega)] at hc
      exact hg c (List.mem_of_getElem? hc)
    · refine h.uncovered i c ?_ hc hrest
      refine Nat.le_of_not_lt fun hlt => hfirst ⟨Nat.le_of_not_lt hin, hlt⟩
  case covered =>
    refine List.forall_mem_cons.2 ⟨?_, h.covered⟩
    rwa [String.toList_ofList]
  case joined =>
    have hdrop : (before ++ (gap ++ (word ++ after))).drop (before.length + gap.length +
        word.length) = after := by
      rw [Nat.add_assoc, List.drop_length_add_append, List.drop_length_add_append, List.drop_left]
    have hjoined := h.joined
    rw [hdrop] at hjoined
    rw [gaps_cons, List.flatMap_cons, stop_ofList, ← hjoined, hgap, String.toList_ofList,
      List.drop_left, List.append_assoc]

/-- **The tokens of some characters** partition any text that ends with them. -/
theorem Scans.partitions (h : Scans m column cs ts) (before : List Char)
    (hcolumn : before.length = column) : Partitions m (before ++ cs) column ts := by
  induction h generalizing before with
  | stop hg =>
    subst hcolumn
    exact .stop before hg
  | @token column gap c rest ts hg hc hrest ih =>
    subst hcolumn
    have hsplit := split_append m c rest
    have hword : (split m c rest).2.1 ≠ [] := by
      intro hnil
      have := split_length m c rest
      rw [hnil] at hsplit
      simp only [List.nil_append] at hsplit
      rw [hsplit, List.length_cons] at this
      omega
    have hafter := ih (before ++ (gap ++ (split m c rest).2.1)) (by simp [Nat.add_assoc])
    rw [List.append_assoc, List.append_assoc] at hafter
    rw [← hsplit]
    exact .token before hg hword (split_kind_ne_endOfLine m c rest) (split_covered m rest hc)
      hrest.le_column hafter

/-! ### Whoever asks again stays at the end -/

theorem nth_end (m : Marks) (n column : Nat) :
    nth m n ⟨column, []⟩ = ⟨.endOfLine, "", column, false⟩ := by
  induction n with
  | zero => rfl
  | succ n ih => exact ih

/-- Asked again and again, a text gives its tokens, and then its end for ever. -/
theorem Scans.nth (h : Scans m column cs ts) (n : Nat) :
    nth m n ⟨column, cs⟩ = ts[n]?.getD ⟨.endOfLine, "", column + cs.length, false⟩ := by
  induction h generalizing n with
  | @stop column gap hg =>
    have hnext : next m ⟨column, gap⟩ =
        (⟨.endOfLine, "", column + gap.length, !gap.isEmpty⟩, ⟨column + gap.length, []⟩) := by
      simp [next, takeRun_of_forall hg]
    cases n with
    | zero => rw [Token.nth, hnext]; rfl
    | succ n => rw [Token.nth, hnext, nth_end]; rfl
  | @token column gap c rest ts hg hc _ ih =>
    have hnext : next m ⟨column, gap ++ c :: rest⟩ =
        (⟨(split m c rest).1, String.ofList (split m c rest).2.1, column + gap.length,
          !gap.isEmpty⟩,
        ⟨column + gap.length + (split m c rest).2.1.length, (split m c rest).2.2⟩) := by
      simp [next, takeRun_gap hg hc]
    cases n with
    | zero => rw [Token.nth, hnext]; rfl
    | succ n =>
      have hlength := congrArg List.length (split_append m c rest)
      simp only [List.length_append, List.length_cons] at hlength
      rw [Token.nth, hnext, ih, List.getElem?_cons_succ, List.length_append, List.length_cons,
        ← hlength]
      congr 2
      omega

/-- **A text is the concatenation of its gaps and its tokens,** whatever the marks are. Asked for
one token after the other, a reader is given these tokens, no more of them than there are
characters, and from then on the end of the text. -/
theorem scan_partitions (m : Marks) (text : String) :
    Partitions m text.toList 0 (scan m text) ∧
      ∀ n, nth m n ⟨0, text.toList⟩ =
        (scan m text)[n]?.getD ⟨.endOfLine, "", text.length, false⟩ := by
  have hscans : Scans m 0 text.toList (scan m text) := scan_eq_iff.1 rfl
  refine ⟨hscans.partitions [] rfl, fun n => ?_⟩
  rw [hscans.nth, Nat.zero_add, String.length_toList]

/-- With blanks for a decimal mark and a letter between arguments. -/
example : (scan ⟨some 'e', some ' '⟩ " 1 5e 2 ").map (·.content) = ["1 5", "e", "2 ", ""] := by
  decide +kernel

end Token
end QuantityCalculus
