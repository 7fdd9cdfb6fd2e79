import Mathlib.Algebra.Ring.Nat
import UsdpIndexer.Library.FailingFold
import UsdpIndexer.Library.IntegerText
import UsdpIndexer.Library.JsonText
import UsdpIndexer.Library.Replacement
import UsdpIndexer.Rpc.Errors

/-!
# What the command line prints of an error

The handler at the end of `cli.ts` prints the message of an error, with the values of eight
variables of the environment taken out by `redactSecrets` of `rpc/alchemy.ts`.  One of them is
a JSON document: `config/env.ts` reads a URL for each chain from it.

The document is taken out as a whole.  It is longer than each of its URLs, so it is in none of
them (`document_not_infix`), and a URL of the map is taken out only as far as another variable is
part of it.
-/

namespace UsdpIndexer

open FailingFold Replacement

/-! ## Redaction -/

/-- `text.length`, in UTF-16 code units. -/
def utf16Length (text : String) : ℕ :=
  (text.toList.map fun c => if c.toNat < 0x10000 then 1 else 2).sum

/-- What stands in the place of a secret. -/
def redactionMarker : String := "[REDACTED]"

/-- The texts that are long enough to be taken out. -/
def isLongSecret (secret : String) : Bool := 8 ≤ utf16Length secret

/-- One secret is taken out, if it is set and long enough. -/
def redactSecret (redacted : String) : Option String → String
  | none => redacted
  | some secret =>
      if isLongSecret secret then
        String.ofList (replaceAll secret.toList redactionMarker.toList redacted.toList)
      else redacted

/-- The secrets are taken out one after the other. -/
def redactSecrets (message : String) (secrets : List (Option String)) : String :=
  secrets.foldl redactSecret message

/-! ## The environment -/

/-- The variables of `process.env` that hold secrets. -/
structure ProcessEnv where
  HYPEREVM_RPC_URL : Option String
  ETHEREUM_RPC_URL : Option String
  BASE_RPC_URL : Option String
  SONIC_RPC_URL : Option String
  AVALANCHE_RPC_URL : Option String
  USDP_CHAIN_RPC_URLS : Option String
  ALCHEMY_API_KEY : Option String
  ONFINALITY_API_KEY : Option String
deriving DecidableEq, Repr

/-- What the schema makes of them. -/
structure RuntimeEnv where
  HYPEREVM_RPC_URL : String
  ETHEREUM_RPC_URL : Option String
  BASE_RPC_URL : Option String
  SONIC_RPC_URL : Option String
  AVALANCHE_RPC_URL : Option String
  USDP_CHAIN_RPC_URLS : Option (List (String × String))
  ALCHEMY_API_KEY : Option String
  ONFINALITY_API_KEY : Option String
deriving DecidableEq, Repr

/-- An issue of the schema. -/
structure Issue where
  path : List String
  message : String
deriving DecidableEq, Repr

/-- An issue as the message lists it. -/
def Issue.text (issue : Issue) : String := ".".intercalate issue.path ++ ": " ++ issue.message

/-- A text that is blank counts as none. -/
def optionalText (value : Option String) : Option String :=
  value.filter fun text => IntegerText.trim text.toList ≠ []

/-- The issues of a field that is refused. -/
def issuesOf {α : Type} : Except (List Issue) α → List Issue
  | .ok _ => []
  | .error issues => issues

section Schema

-- `z.url` of the schema library: the text as it is accepted
variable (url : String → Option String)

/-- A variable that must be set to a URL. -/
def requiredUrl (name : String) (value : Option String) : Except (List Issue) String :=
  match value.bind url with
  | some accepted => .ok accepted
  | none => .error [⟨[name], s!"{name} must be a valid URL"⟩]

/-- A variable that is blank or a URL. -/
def optionalUrl (name : String) (value : Option String) : Except (List Issue) (Option String) :=
  match optionalText value with
  | some text => (requiredUrl url name text).map some
  | none => .ok none

/-- An entry of the map: the id of a chain and a URL. -/
def rpcUrlEntry (entry : List Char × JsonText.Value) : Except Issue (String × String) :=
  let key := String.ofList entry.1
  if entry.1 ≠ [] ∧ entry.1.all Char.isDigit then
    match entry.2 with
    | .string chars =>
        match url (String.ofList chars) with
        | some accepted => .ok (key, accepted)
        | none => .error ⟨["USDP_CHAIN_RPC_URLS", key], "RPC map values must be valid URLs"⟩
    | _ => .error ⟨["USDP_CHAIN_RPC_URLS", key], "RPC map values must be valid URLs"⟩
  else .error ⟨["USDP_CHAIN_RPC_URLS", key], "Invalid key in record"⟩

/-- The entries of the map, or the issues of all that are refused.  The schema library passes over
a member called `__proto__`. -/
def rpcUrlEntries (members : List (List Char × JsonText.Value)) :
    Except (List Issue) (List (String × String)) :=
  let own := (JsonText.entries members).filter fun member => member.1 ≠ "__proto__".toList
  let entries := own.map (rpcUrlEntry url)
  let issues := entries.filterMap fun entry => match entry with
    | .error issue => some issue
    | .ok _ => none
  if issues = [] then .ok (entries.filterMap (·.toOption)) else .error issues

/-- The map, from the members of a JSON document.  A text that is no such document goes on as a
string, which is no map either. -/
def optionalRpcUrlMap (value : Option String) :
    Except (List Issue) (Option (List (String × String))) :=
  match optionalText value with
  | none => .ok none
  | some text =>
      match (JsonText.parse text.toList).getD (.string text.toList) with
      | .object members => (rpcUrlEntries url members).map some
      | other =>
          .error [⟨["USDP_CHAIN_RPC_URLS"],
            s!"Invalid input: expected record, received {other.typeName}"⟩]

/-- The fields put together, or all their issues. -/
def runtimeEnv (hyperevm : Except (List Issue) String)
    (ethereum base sonic avalanche : Except (List Issue) (Option String))
    (map : Except (List Issue) (Option (List (String × String))))
    (alchemy onfinality : Option String) : Except JsError RuntimeEnv :=
  match hyperevm, ethereum, base, sonic, avalanche, map with
  | .ok hyperevm, .ok ethereum, .ok base, .ok sonic, .ok avalanche, .ok map =>
      .ok ⟨hyperevm, ethereum, base, sonic, avalanche, map, alchemy, onfinality⟩
  | hyperevm, ethereum, base, sonic, avalanche, map =>
      let issues := issuesOf hyperevm ++ issuesOf ethereum ++ issuesOf base ++ issuesOf sonic ++
        issuesOf avalanche ++ issuesOf map
      .error ⟨"Invalid runtime configuration: " ++ "; ".intercalate (issues.map Issue.text)⟩

/-- `parseRuntimeEnv`, of these variables. -/
def parseRuntimeEnv (input : ProcessEnv) : Except JsError RuntimeEnv :=
  runtimeEnv (requiredUrl url "HYPEREVM_RPC_URL" input.HYPEREVM_RPC_URL)
    (optionalUrl url "ETHEREUM_RPC_URL" input.ETHEREUM_RPC_URL)
    (optionalUrl url "BASE_RPC_URL" input.BASE_RPC_URL)
    (optionalUrl url "SONIC_RPC_URL" input.SONIC_RPC_URL)
    (optionalUrl url "AVALANCHE_RPC_URL" input.AVALANCHE_RPC_URL)
    (optionalRpcUrlMap url input.USDP_CHAIN_RPC_URLS) (optionalText input.ALCHEMY_API_KEY)
    (optionalText input.ONFINALITY_API_KEY)

end Schema

/-- The URLs of the map. -/
def RuntimeEnv.mapUrls (env : RuntimeEnv) : List String :=
  (env.USDP_CHAIN_RPC_URLS.getD []).map Prod.snd

/-- The configured RPC URLs and keys. -/
def RuntimeEnv.configured (env : RuntimeEnv) : List String :=
  env.mapUrls ++ env.HYPEREVM_RPC_URL ::
    [env.ETHEREUM_RPC_URL, env.BASE_RPC_URL, env.SONIC_RPC_URL, env.AVALANCHE_RPC_URL,
      env.ALCHEMY_API_KEY, env.ONFINALITY_API_KEY].reduceOption

/-! ## The handler -/

namespace ProcessEnv

variable (env : ProcessEnv)

/-- What the handler takes out, in this order. -/
def secrets : List (Option String) :=
  [env.ALCHEMY_API_KEY, env.ONFINALITY_API_KEY, env.HYPEREVM_RPC_URL, env.ETHEREUM_RPC_URL,
    env.BASE_RPC_URL, env.SONIC_RPC_URL, env.AVALANCHE_RPC_URL, env.USDP_CHAIN_RPC_URLS]

/-- The text that the handler prints. -/
def printed (error : JsError) : String := redactSecrets error.message env.secrets

end ProcessEnv

/-! ## What redaction does -/

theorem ne_nil_of_isLongSecret {secret : String} (long : isLongSecret secret = true) :
    secret.toList ≠ [] := by
  intro none
  rw [isLongSecret, utf16Length, none] at long
  revert long
  decide

/-- A text that does not overlap the marker is brought in by no step. -/
theorem absent_redactSecret {word message : String} (secret : Option String)
    (apart : ¬ Overlaps word.toList redactionMarker.toList)
    (absent : ¬ word.toList <:+: message.toList) :
    ¬ word.toList <:+: (redactSecret message secret).toList := by
  cases secret with
  | none => exact absent
  | some secret =>
      rw [redactSecret]
      split_ifs with long
      · rw [String.toList_ofList]
        exact fun occurs =>
          absent (infix_of_infix_replaceAll (ne_nil_of_isLongSecret long) apart occurs)
      · exact absent

theorem absent_redactSecrets {word message : String} (secrets : List (Option String))
    (apart : ¬ Overlaps word.toList redactionMarker.toList)
    (absent : ¬ word.toList <:+: message.toList) :
    ¬ word.toList <:+: (redactSecrets message secrets).toList := by
  induction secrets generalizing message with
  | nil => exact absent
  | cons secret secrets ih => exact ih (absent_redactSecret secret apart absent)

/-- **A word with a secret in it is taken out** of every message, if it does not overlap the
marker. -/
theorem not_infix_redactSecrets {secrets : List (Option String)} {secret word : String}
    (mem : some secret ∈ secrets) (long : isLongSecret secret = true)
    (inside : secret.toList <:+: word.toList)
    (apart : ¬ Overlaps word.toList redactionMarker.toList) (message : String) :
    ¬ word.toList <:+: (redactSecrets message secrets).toList := by
  obtain ⟨front, back, rfl⟩ := List.append_of_mem mem
  rw [redactSecrets, List.foldl_append, List.foldl_cons]
  refine absent_redactSecrets back apart ?_
  rw [redactSecret, if_pos long, String.toList_ofList]
  exact not_infix_replaceAll_of_infix (ne_nil_of_isLongSecret long) inside apart _

/-- A message that has no long secret in it is left as it is. -/
theorem redactSecrets_eq_self {secrets : List (Option String)} {message : String}
    (absent : ∀ secret, some secret ∈ secrets → isLongSecret secret = true →
      ¬ secret.toList <:+: message.toList) : redactSecrets message secrets = message := by
  induction secrets with
  | nil => rfl
  | cons head secrets ih =>
      have kept : redactSecret message head = message := by
        cases head with
        | none => rfl
        | some secret =>
            rw [redactSecret]
            split_ifs with long
            · rw [replaceAll_eq_self (absent secret List.mem_cons_self long), String.ofList_toList]
            · rfl
      rw [redactSecrets, List.foldl_cons, kept]
      exact ih fun secret mem => absent secret (List.mem_cons_of_mem _ mem)

/-! ## The URLs of the map -/

theorem map_of_runtimeEnv {hyperevm : Except (List Issue) String}
    {ethereum base sonic avalanche : Except (List Issue) (Option String)}
    {map : Except (List Issue) (Option (List (String × String)))}
    {alchemy onfinality : Option String} {runtime : RuntimeEnv}
    (built : runtimeEnv hyperevm ethereum base sonic avalanche map alchemy onfinality
      = .ok runtime) : map = .ok runtime.USDP_CHAIN_RPC_URLS := by
  unfold runtimeEnv at built
  split at built
  · cases built
    rfl
  · cases built

theorem rpcUrlEntry_eq_ok {url : String → Option String} {entry : List Char × JsonText.Value}
    {chainUrl : String × String} (accepted : rpcUrlEntry url entry = .ok chainUrl) :
    ∃ chars, entry.2 = .string chars ∧ url (String.ofList chars) = some chainUrl.2 := by
  obtain ⟨name, value⟩ := entry
  unfold rpcUrlEntry at accepted
  dsimp only at accepted
  split_ifs at accepted
  cases value with
  | string chars =>
      dsimp only at accepted
      cases read : url (String.ofList chars) with
      | none =>
          rw [read] at accepted
          cases accepted
      | some text =>
          rw [read] at accepted
          cases accepted
          exact ⟨chars, rfl, read⟩
  | null => cases accepted
  | bool => cases accepted
  | number => cases accepted
  | array => cases accepted
  | object => cases accepted

theorem rpcUrlEntries_eq_ok {url : String → Option String}
    {members : List (List Char × JsonText.Value)} {map : List (String × String)}
    (accepted : rpcUrlEntries url members = .ok map) {chainUrl : String × String}
    (mem : chainUrl ∈ map) : ∃ entry ∈ members, rpcUrlEntry url entry = .ok chainUrl := by
  unfold rpcUrlEntries at accepted
  dsimp only at accepted
  split_ifs at accepted
  obtain rfl := Except.ok.inj accepted
  obtain ⟨checked, listed, read⟩ := List.mem_filterMap.mp mem
  obtain ⟨entry, own, rfl⟩ := List.mem_map.mp listed
  have inside := JsonText.mem_of_mem_entries (List.mem_of_mem_filter own)
  cases check : rpcUrlEntry url entry with
  | error issue =>
      rw [check] at read
      cases read
  | ok value =>
      rw [check] at read
      cases read
      exact ⟨entry, inside, check⟩

/-- The document of a map that is not empty, and its members. -/
theorem optionalRpcUrlMap_eq_ok {url : String → Option String} {value : Option String}
    {map : Option (List (String × String))} (accepted : optionalRpcUrlMap url value = .ok map)
    {chainUrl : String × String} (mem : chainUrl ∈ map.getD []) :
    ∃ document members entry, value = some document ∧
      JsonText.parse document.toList = some (.object members) ∧ entry ∈ members ∧
      rpcUrlEntry url entry = .ok chainUrl := by
  unfold optionalRpcUrlMap at accepted
  cases text : optionalText value with
  | none =>
      rw [text] at accepted
      cases accepted
      exact absurd mem List.not_mem_nil
  | some document =>
      have set : value = some document := (Option.filter_eq_some_iff.mp text).1
      simp only [text] at accepted
      cases parsed : JsonText.parse document.toList with
      | none =>
          rw [parsed, Option.getD_none] at accepted
          cases accepted
      | some json =>
          rw [parsed, Option.getD_some] at accepted
          cases json with
          | object members =>
              obtain ⟨entries, checked, rfl⟩ := map_eq_ok.mp accepted
              obtain ⟨entry, inside, read⟩ := rpcUrlEntries_eq_ok checked mem
              exact ⟨document, members, entry, set, parsed, inside, read⟩
          | null => cases accepted
          | bool => cases accepted
          | number => cases accepted
          | string => cases accepted
          | array => cases accepted

/-- A URL of the map is read from a string that is shorter than the document. -/
theorem exists_of_mem_mapUrls {url : String → Option String} {env : ProcessEnv}
    {runtime : RuntimeEnv} (accepted : parseRuntimeEnv url env = .ok runtime) {u : String}
    (mem : u ∈ runtime.mapUrls) :
    ∃ document chars, env.USDP_CHAIN_RPC_URLS = some document ∧
      chars.length < document.toList.length ∧ url (String.ofList chars) = some u := by
  obtain ⟨chainUrl, listed, rfl⟩ := List.mem_map.mp mem
  obtain ⟨document, members, entry, set, parsed, inside, read⟩ :=
    optionalRpcUrlMap_eq_ok (map_of_runtimeEnv accepted) listed
  obtain ⟨name, value⟩ := entry
  obtain ⟨chars, rfl, accepted⟩ := rpcUrlEntry_eq_ok read
  exact ⟨document, chars, set, JsonText.length_lt_of_member parsed inside, accepted⟩

/-- **The document is part of none of its URLs**, as the schema accepts a text without the white
space around it and nothing else. -/
theorem document_not_infix {url : String → Option String}
    (trims : ∀ text u, url text = some u → u.toList <:+: text.toList) {env : ProcessEnv}
    {runtime : RuntimeEnv} (accepted : parseRuntimeEnv url env = .ok runtime) {u : String}
    (mem : u ∈ runtime.mapUrls) {document : String}
    (set : env.USDP_CHAIN_RPC_URLS = some document) : ¬ document.toList <:+: u.toList := by
  obtain ⟨document', chars, set', shorter, read⟩ := exists_of_mem_mapUrls accepted mem
  obtain rfl := Option.some.inj (set'.symm.trans set)
  intro occurs
  have within := (trims _ _ read).length_le
  rw [String.toList_ofList] at within
  exact absurd (occurs.length_le.trans within) (not_le.mpr shorter)

/-! ## What the handler prints -/

/-- A long secret of the handler is part of the text. -/
def ProcessEnv.Quotes (env : ProcessEnv) (u secret : String) : Prop :=
  some secret ∈ env.secrets ∧ isLongSecret secret = true ∧ secret.toList <:+: u.toList

/-- The text is taken out of every message. -/
def ProcessEnv.Redacts (env : ProcessEnv) (u : String) : Prop :=
  ∀ error : JsError, Text.includes error.message u → ¬ Text.includes (env.printed error) u

/-- A text that is taken out of every message has a long secret of the handler in it: otherwise
the message that is the text itself is printed as it is. -/
theorem ProcessEnv.Redacts.exists_quotes {url : String → Option String}
    (trims : ∀ text u, url text = some u → u.toList <:+: text.toList) {env : ProcessEnv}
    {runtime : RuntimeEnv} (accepted : parseRuntimeEnv url env = .ok runtime) {u : String}
    (redacted : env.Redacts u) : ∃ secret, env.Quotes u secret ∧
      (u ∈ runtime.mapUrls → env.USDP_CHAIN_RPC_URLS ≠ some secret) := by
  by_contra none
  have absent : ∀ secret, some secret ∈ env.secrets → isLongSecret secret = true →
      ¬ secret.toList <:+: u.toList := fun secret mem long inside =>
    none ⟨secret, ⟨mem, long, inside⟩, fun listed set =>
      document_not_infix trims accepted listed set inside⟩
  have whole : Text.includes u u = true := decide_eq_true (List.infix_refl _)
  refine redacted ⟨u⟩ whole ?_
  rw [ProcessEnv.printed, redactSecrets_eq_self absent]
  exact whole

/-- **When a URL is never printed.**  A URL that does not overlap the marker is taken out of every
message exactly if a long secret of the handler is part of it, for a URL of the map one other
than the document.  One that does overlap the marker is taken out if such a secret does not; and
if it is taken out, then there is such a secret. -/
theorem configured_redacted_iff {url : String → Option String}
    (trims : ∀ text u, url text = some u → u.toList <:+: text.toList) {env : ProcessEnv}
    {runtime : RuntimeEnv} (accepted : parseRuntimeEnv url env = .ok runtime) (u : String) :
    (¬ Overlaps u.toList redactionMarker.toList → (env.Redacts u ↔
      ∃ secret, env.Quotes u secret ∧
        (u ∈ runtime.mapUrls → env.USDP_CHAIN_RPC_URLS ≠ some secret))) ∧
    ((∃ secret, env.Quotes u secret ∧ ¬ Overlaps secret.toList redactionMarker.toList) →
      env.Redacts u) ∧
    (env.Redacts u → ∃ secret, env.Quotes u secret ∧
      (u ∈ runtime.mapUrls → env.USDP_CHAIN_RPC_URLS ≠ some secret)) := by
  refine ⟨fun apart => ⟨fun redacted => redacted.exists_quotes trims accepted, ?_⟩, ?_,
    fun redacted => redacted.exists_quotes trims accepted⟩
  · rintro ⟨secret, ⟨mem, long, inside⟩, -⟩ error - printed
    exact not_infix_redactSecrets mem long inside apart error.message (of_decide_eq_true printed)
  · rintro ⟨secret, ⟨mem, long, inside⟩, apart⟩ error - printed
    exact not_infix_redactSecrets mem long (List.infix_refl _) apart error.message
      (inside.trans (of_decide_eq_true printed))

/-! ### Two environments -/

/-- Accepts what begins like a URL, and changes nothing. -/
def httpsUrl (text : String) : Option String :=
  if "https://".toList <+: text.toList then some text else none

theorem infix_of_httpsUrl (text u : String) (accepted : httpsUrl text = some u) :
    u.toList <:+: text.toList := by
  rw [httpsUrl] at accepted
  split_ifs at accepted
  obtain rfl := Option.some.inj accepted
  exact List.infix_refl _

/-- A URL for HyperEVM and perhaps one for Ethereum, and a map with one URL. -/
def sampleEnv (ethereum : Option String) : ProcessEnv where
  HYPEREVM_RPC_URL := some "https://hyperevm.example.invalid"
  ETHEREUM_RPC_URL := ethereum
  BASE_RPC_URL := none
  SONIC_RPC_URL := some ""
  AVALANCHE_RPC_URL := none
  USDP_CHAIN_RPC_URLS := some "\x7b\"56\": \"https://rpc.example.invalid/v2/key\"\x7d"
  ALCHEMY_API_KEY := none
  ONFINALITY_API_KEY := none

/-- What the schema makes of it. -/
def sampleRuntime (ethereum : Option String) : RuntimeEnv where
  HYPEREVM_RPC_URL := "https://hyperevm.example.invalid"
  ETHEREUM_RPC_URL := ethereum
  BASE_RPC_URL := none
  SONIC_RPC_URL := none
  AVALANCHE_RPC_URL := none
  USDP_CHAIN_RPC_URLS := some [("56", "https://rpc.example.invalid/v2/key")]
  ALCHEMY_API_KEY := none
  ONFINALITY_API_KEY := none

theorem parse_sampleEnv :
    parseRuntimeEnv httpsUrl (sampleEnv none) = .ok (sampleRuntime none) ∧
      parseRuntimeEnv httpsUrl (sampleEnv (some "https://rpc.example.invalid"))
        = .ok (sampleRuntime (some "https://rpc.example.invalid")) := by
  decide +kernel

/-- The URL of the map goes on from that for Ethereum, so it is never printed. -/
theorem configured_redacted_iff_extension :
    (sampleRuntime (some "https://rpc.example.invalid")).mapUrls
      = ["https://rpc.example.invalid/v2/key"] ∧
    (sampleEnv (some "https://rpc.example.invalid")).Redacts
      "https://rpc.example.invalid/v2/key" := by
  refine ⟨rfl,
    ((configured_redacted_iff infix_of_httpsUrl parse_sampleEnv.2 _).1 (by decide)).mpr ?_⟩
  exact ⟨"https://rpc.example.invalid", ⟨by decide, by decide, by decide⟩, fun _ => by decide⟩

/-- **A URL of the map is printed as it is.** -/
theorem mapUrl_printed :
    ¬ ∀ (url : String → Option String) (env : ProcessEnv) (runtime : RuntimeEnv) (u : String)
        (error : JsError), (∀ text u, url text = some u → u.toList <:+: text.toList) →
        parseRuntimeEnv url env = .ok runtime → u ∈ runtime.configured → isLongSecret u = true →
        Text.includes error.message u → ¬ Text.includes (env.printed error) u := by
  intro never
  refine never httpsUrl _ _ "https://rpc.example.invalid/v2/key"
    ⟨"HTTP request failed. URL: https://rpc.example.invalid/v2/key"⟩ infix_of_httpsUrl
    parse_sampleEnv.1 (by decide) (by decide) (by decide) ?_
  decide +kernel

end UsdpIndexer
