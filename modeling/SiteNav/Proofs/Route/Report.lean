import SiteNav.Proofs.Route.Segments

/-!
# What a report says

A path that is not absolute is reported without an attempt. On any other path that is no route there
are two attempts, on the home page and on the chat page. They look at the same segments, one behind
the other: what the first one finds in the way begins with what the second one finds in the place of
its own segment, or with that segment and then all that the second one finds in the way.
-/

namespace SiteNav

/-! ### The text of a report -/

/-- The line of an attempt in a report that gives it a number. -/
def Attempt.numberedLine (a : Attempt) (n : Nat) : String := n.repr ++ ") " ++ a.message ++ "\n"

/-- Pieces of a report are lines with their numbers in front, from any number on. -/
lemma join_attemptPieces (as : List Attempt) (n : Nat) :
    String.join (attemptPieces n as) =
      String.join ((as.zipIdx n).map fun p => p.1.numberedLine p.2) := by
  induction as generalizing n with
  | nil => rfl
  | cons a as ih =>
    rw [List.zipIdx_cons, List.map_cons, String.join_cons, ← ih, attemptPieces]
    simp only [String.join_cons, Attempt.numberedLine, String.append_assoc]

/-- The pieces that a report is printed in make a header and one line for each attempt. -/
lemma RouteError.message_eq (e : RouteError) :
    e.message = "Route did not match:\nAttempted Matches:\n" ++
      String.join ((e.attempts.zipIdx 1).map fun p => p.1.numberedLine p.2) := by
  rw [RouteError.message, RouteError.pieces, String.join_cons, join_attemptPieces]

/-! ### The segments of a report -/

/-- What an attempt on the chat page says where one on the home page has found a text in the way. -/
inductive ChatAttemptFits (inTheWay : String) : String → Prop where
  | segment {found : String} (hfound : found ≠ "chat")
      (h : inTheWay = found ∨ ∃ rest, inTheWay = found ++ "/" ++ rest) :
      ChatAttemptFits inTheWay ("Route 'Chat' ('/chat') did not match:\n" ++
        "Static segment 'chat' did not match instead found '" ++ found ++ "'")
  | trailing {rest : String} (h : inTheWay = "chat/" ++ rest) :
      ChatAttemptFits inTheWay ("Route 'Chat' ('/chat') did not match:\n" ++
        "Found additional trailing segments: " ++ rest)

lemma chatAttemptFits_attemptTexts {first : String} {rest : List String}
    (h : first :: rest ≠ ["chat"]) :
    ∃ chatText, attemptTexts first rest =
        ["Route 'Home' ('/') did not match:\nFound additional trailing segments: " ++
          "/".intercalate (first :: rest), chatText] ∧
      ChatAttemptFits ("/".intercalate (first :: rest)) chatText := by
  refine ⟨_, rfl, ?_⟩
  by_cases hfirst : first = "chat"
  · have hrest : rest ≠ [] := by
      rintro rfl
      exact h (by rw [hfirst])
    rw [if_pos hfirst, ← String.append_assoc]
    apply ChatAttemptFits.trailing
    rw [String.intercalate_cons_of_ne_nil hrest, hfirst]
    simp only [String.reduceAppend]
  · rw [if_neg hfirst, ← String.append_assoc, ← String.append_assoc]
    apply ChatAttemptFits.segment hfirst
    cases rest with
    | nil => exact .inl (String.intercalate_singleton)
    | cons second rest => exact .inr ⟨_, String.intercalate_cons_cons⟩

/-- Both attempts on an absolute path are made on its segments. -/
lemma Route.attempts_of_isAbsolute {path : String} {e : RouteError}
    (h : Route.parse path = .error e) (habs : isAbsolute path.toList = true) :
    ∃ first rest, pathSegments path.toList = first :: rest ∧ first :: rest ≠ ["chat"] ∧
      e.attempts.map Attempt.route = [.home, .chat] ∧
      e.attempts.map Attempt.message = attemptTexts first rest := by
  rw [Route.parse_of_isAbsolute habs] at h
  cases hsegments : pathSegments path.toList with
  | nil =>
    rw [hsegments] at h
    cases h
  | cons first rest =>
    rw [hsegments] at h
    have hne : first :: rest ≠ [chatSegment] := by
      intro hchat
      rw [hchat] at h
      cases h
    obtain ⟨e', he', hroutes, hmessages⟩ := Route.ofSegments_cons hne
    rw [he'] at h
    cases h
    exact ⟨first, rest, rfl, hne, hroutes, hmessages⟩

/-! ### The attempts agree -/

/-- A report has no attempt exactly if its path does not begin with a slash. Otherwise it has two,
the home page's first, and what the one says of the segments of the path goes with what the other
says. Its text is a header and one line for each attempt, numbered from one on. -/
theorem Route.attempts_agree {path : String} {e : RouteError} (h : Route.parse path = .error e) :
    (e.attempts = [] ↔ path.toList.head? ≠ some '/') ∧
    (e.attempts ≠ [] → e.attempts.map Attempt.route = [.home, .chat] ∧
      ∃ inTheWay chatText, inTheWay = "/".intercalate (pathSegments path.toList) ∧
        e.attempts.map Attempt.message =
          ["Route 'Home' ('/') did not match:\nFound additional trailing segments: " ++ inTheWay,
            chatText] ∧
        ChatAttemptFits inTheWay chatText) ∧
    e.message = "Route did not match:\nAttempted Matches:\n" ++
      String.join ((e.attempts.zipIdx 1).map fun p => p.1.numberedLine p.2) := by
  have hslash : isAbsolute path.toList = true ↔ path.toList.head? = some '/' := by
    rw [isAbsolute_iff, List.head?_eq_some_iff]
  cases habs : isAbsolute path.toList with
  | false =>
    rw [Route.parse_of_not_isAbsolute habs] at h
    cases h
    rw [habs] at hslash
    exact ⟨by simp [← hslash], by simp, RouteError.message_eq _⟩
  | true =>
    obtain ⟨first, rest, hsegments, hne, hroutes, hmessages⟩ := Route.attempts_of_isAbsolute h habs
    obtain ⟨chatText, htexts, hfits⟩ := chatAttemptFits_attemptTexts hne
    have hattempts : e.attempts ≠ [] := by
      intro hnil
      rw [hnil] at hroutes
      cases hroutes
    refine ⟨?_, fun _ => ⟨hroutes, _, chatText, rfl, ?_, ?_⟩, e.message_eq⟩
    · simp [hattempts, hslash.mp habs]
    · rw [hmessages, htexts, hsegments]
    · rwa [hsegments]

/-- An empty segment behind the one of the chat page, and a slash and a newline inside of the last
one. -/
theorem Route.attempts_agree_of_newline :
    ∃ e, Route.parse "/chat//a%2Fb%0A" = .error e ∧ e.attempts ≠ [] ∧
      ∃ chatText, e.attempts.map Attempt.message =
          ["Route 'Home' ('/') did not match:\nFound additional trailing segments: chat//a/b\n",
            chatText] ∧
        ChatAttemptFits "chat//a/b\n" chatText := by
  have h : Route.parse "/chat//a%2Fb%0A" = .error
      ⟨[⟨.home, .trailing ["chat", "", "a/b\n"]⟩, ⟨.chat, .trailing ["", "a/b\n"]⟩]⟩ := by
    rfl
  obtain ⟨-, htwo, -⟩ := Route.attempts_agree h
  obtain ⟨-, inTheWay, chatText, hway, hmessages, hfits⟩ := htwo (by simp)
  have hway' : inTheWay = "chat//a/b\n" := by
    rw [hway]
    rfl
  rw [hway'] at hmessages hfits
  exact ⟨_, h, by simp, chatText, hmessages, hfits⟩

end SiteNav
