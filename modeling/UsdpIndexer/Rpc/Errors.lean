import UsdpIndexer.Library.Text

/-!
# Errors and what their messages say

Everything that is thrown is looked at through one expression,
`error instanceof Error ? error.message : String(error)`, so an error is its
message.  This file has the predicate of `rpc/provider-failover.ts` that tells
an exhausted daily quota from other failures, and the redaction of
`rpc/errors.ts`; the four retry classes of `indexer/planner.ts` are in
`UsdpIndexer.Indexer.Planner`.
-/

namespace UsdpIndexer

/-- A thrown value, as the message every handler reads off it. -/
structure JsError where
  message : String
deriving DecidableEq, Repr

/-- The form in which messages are searched: lower case, with `_` read as a
blank. -/
def JsError.searchText (error : JsError) : String :=
  Text.replaceChar '_' ' ' (Text.toLowerCase error.message)

/-- The provider reports that the daily quota is used up.  The last disjunct
asks for the header name and for a `0` anywhere in the message. -/
def isDailyRequestQuotaError (error : JsError) : Bool :=
  let message := error.searchText
  Text.includes message "daily request limit" ||
    Text.includes message "daily requests limit" ||
    Text.includes message "daily quota" ||
    (Text.includes message "x-ratelimit-remaining" && Text.includes message "0")

/-! ## Messages that are stored -/

/-- What `[^\s"')]` matches. -/
def isUrlChar (c : Char) : Bool :=
  !Text.isSpace c && c != '"' && c != '\'' && c != ')'

/-- The text behind the longest match of `/(?:https?|wss?):\/\/[^\s"')]+/i` at its
head. -/
def stripProviderUrl (text : List Char) : Option (List Char) := do
  let rest ← ["https://", "http://", "wss://", "ws://"].findSome? fun scheme =>
    if scheme.toList.isPrefixOf (text.map Char.toLower) then some (text.drop scheme.length)
    else none
  if (rest.takeWhile isUrlChar).isEmpty then none else some (rest.dropWhile isUrlChar)

/-- Replace every match, with one unit of fuel for each character. -/
def redactProviderUrls : ℕ → List Char → List Char
  | 0, text => text
  | _ + 1, [] => []
  | fuel + 1, c :: text =>
      match stripProviderUrl (c :: text) with
      | some rest => "[redacted-provider-url]".toList ++ redactProviderUrls fuel rest
      | none => c :: redactProviderUrls fuel text

/-- The message of an error, with the URLs of providers taken out. -/
def providerErrorMessage (error : JsError) : String :=
  String.ofList (redactProviderUrls error.message.length error.message.toList)

example : providerErrorMessage ⟨"at ws://a/k: 500"⟩
    = "at [redacted-provider-url] 500" := by
  decide +kernel

end UsdpIndexer
