import TerrierScript.Script
import TerrierScript.Testing.PyStr

/-!
# Sending results to the performance storage service

`testing/reporting/report_result.py` posts every report through
`_send_result`: the url is the service's address for the environment followed
by the path of the report; `requests.post` and `raise_for_status` run in a
`try` whose `except requests.RequestException as err` logs
`err.response.text` and raises the exception again.

A `RequestException` carries the response it failed on when there is one:
`raise_for_status`'s `HTTPError` does, and so does `TooManyRedirects`; the
handler then logs that response's text and the exception leaves unchanged.
One raised before any answer (a connection error, a timeout, a url `requests`
refuses) carries none: the handler reads `None.text` and raises
`AttributeError` in its place.  An exception of another class is not caught.

`requests` strips the url's leading whitespace and finds no connection
adapter for a url that does not then start with `http://` or `https://`, in
any case of its letters, so such a url fails before any connection.  An
environment the address table does not know makes the url start with `None`:
such a report always ends in `AttributeError`.

`PERFORMANCE_STORAGE_SERVICE_API` is not in the sources; the address table is
a parameter, and what the service and the network do with a request is an
oracle.  The body of the request is left out: it comes from the parsers of the
reports, which are not in the sources.
-/

namespace TerrierScript
namespace Testing

/-- The fields of a `requests.Response` the script and `raise_for_status` read. -/
structure Response where
  statusCode : ℕ
  reason : String
  url : String
  text : String
  deriving DecidableEq, Repr

/-- An exception raised in `requests.post`: a `RequestException`, with the
response it carries if any, or an exception of another class. -/
inductive PostError
  | requestException (text : String) (response : Option Response)
  | other (text : String)
  deriving DecidableEq, Repr

/-- An effect of `_send_result`. -/
inductive ReportEffect
  | logDebug (msg : String)
  | logError (msg : String)
  | post (url : String)
  deriving DecidableEq, Repr

/-- `get_adapter`: the url starts with `http://` or `https://`, in any case of
its letters. -/
def hasHttpScheme (url : String) : Bool :=
  let lower := url.toList.map Char.toLower
  "http://".toList.isPrefixOf lower || "https://".toList.isPrefixOf lower

/-- What `requests` raises for a url with no `http` or `https` scheme:
`MissingSchema` from `prepare_url` when it has no `:`, else `InvalidSchema`
from `get_adapter` (an `http` url without `//` may fail in `parse_url` first,
with `InvalidURL`).  None of them carries a response. -/
def schemeError (url : String) : PostError :=
  if ':' ∈ url.toList then
    .requestException ("InvalidSchema: No connection adapters were found for '" ++ url ++ "'") none
  else
    .requestException ("MissingSchema: Invalid URL '" ++ url ++
      "': No scheme supplied. Perhaps you meant https://" ++ url ++ "?") none

/-- `requests.post(url, ...)`: the url without its leading whitespace goes to
the service when its scheme is `http` or `https`, and fails before any
connection otherwise. -/
def requestsPost (service : String → Except PostError Response) (url : String) :
    Except PostError Response :=
  if hasHttpScheme (lstrip url) then service (lstrip url) else .error (schemeError (lstrip url))

/-- `response.raise_for_status()` raises for a status from 400 to 599. -/
def raisesForStatus (statusCode : ℕ) : Bool := 400 ≤ statusCode && statusCode < 600

/-- The text of the `HTTPError` that `raise_for_status` raises. -/
def httpErrorText (r : Response) : String :=
  "HTTPError: " ++ toString r.statusCode ++
    (if r.statusCode < 500 then " Client Error: " else " Server Error: ") ++
    r.reason ++ " for url: " ++ r.url

/-- `response.raise_for_status()`. -/
def raiseForStatus (r : Response) : Except PostError Unit :=
  if raisesForStatus r.statusCode then .error (.requestException (httpErrorText r) (some r))
  else .ok ()

def noResponseText : String := "AttributeError: 'NoneType' object has no attribute 'text'"

/-- `except requests.RequestException as err: LOG.error(err.response.text); raise`. -/
def handlePostError : PostError → Script ReportEffect Unit
  | .requestException text (some r) => do
      Script.emit (.logError r.text)
      Script.lift (.error text)
  | .requestException _ none => Script.lift (.error noResponseText)
  | .other text => Script.lift (.error text)

theorem schemeError_eq (url : String) : ∃ text, schemeError url = .requestException text none := by
  unfold schemeError
  split_ifs <;> exact ⟨_, rfl⟩

/-- What the `try` raises: the refusal of a url that is not `http` or
`https`, the `HTTPError` of an answered status from 400 to 599, or what the
service raised. -/
theorem requestsPost_raises {service : String → Except PostError Response} {url : String}
    {err : PostError} (h : (requestsPost service url >>= raiseForStatus) = .error err) :
    (hasHttpScheme (lstrip url) = false ∧ err = schemeError (lstrip url)) ∨
      hasHttpScheme (lstrip url) = true ∧
        ((∃ r, service (lstrip url) = .ok r ∧ raisesForStatus r.statusCode ∧
            err = .requestException (httpErrorText r) (some r)) ∨
          service (lstrip url) = .error err) := by
  unfold requestsPost at h
  split_ifs at h with hscheme
  · rcases hservice : service (lstrip url) with err' | r <;> rw [hservice] at h
    · exact .inr ⟨hscheme, .inr (by cases h; rfl)⟩
    · simp only [except_ok_bind, raiseForStatus] at h
      split_ifs at h with hstatus
      · exact .inr ⟨hscheme, .inl ⟨r, rfl, hstatus, by cases h; rfl⟩⟩
  · exact .inl ⟨by simpa using hscheme, by cases h; rfl⟩

/-- What leaves the handler: `AttributeError` for a `RequestException` without
a response, the exception itself otherwise, after logging the text of the
response it carries. -/
theorem handlePostError_raises {err : PostError} {e : String}
    (h : (handlePostError err).result = .error e) :
    (e = noResponseText ∧ ∃ text, err = .requestException text none) ∨
      (∃ r, err = .requestException e (some r) ∧ (handlePostError err).events = [.logError r.text]) ∨
      err = .other e := by
  rcases err with ⟨text, _ | r⟩ | text <;> simp only [handlePostError, Script.lift, Script.emit,
    Script.mk_ok_bind, Except.error.injEq] at h
  · exact .inl ⟨h.symm, _, rfl⟩
  · exact .inr (.inl ⟨r, by rw [h], rfl⟩)
  · exact .inr (.inr (by rw [h]))

/-- `f"{PERFORMANCE_STORAGE_SERVICE_API.get(env)}{path}"`. -/
def resultUrl (api : List (String × String)) (env path : String) : String :=
  (api.lookup env).getD "None" ++ path

/-- `_send_result`. -/
def sendResult (api : List (String × String)) (service : String → Except PostError Response)
    (env path : String) : Script ReportEffect Unit := do
  let url := resultUrl api env path
  Script.emit (.logDebug ("Sending results to: " ++ url))
  Script.emit (.post url)
  match requestsPost service url >>= raiseForStatus with
  | .ok () => pure ()
  | .error err => handlePostError err

/-- The exception that leaves `_send_result`: `AttributeError` for a url
`requests` refuses or a `RequestException` without a response; the `HTTPError`
of an answered status from 400 to 599, or a `RequestException` that carries a
response (`TooManyRedirects`), after the text of that response is logged; or
an exception of another class, unchanged. -/
theorem sendResult_raises {api : List (String × String)}
    {service : String → Except PostError Response} {env path e : String}
    (h : (sendResult api service env path).result = .error e) :
    (e = noResponseText ∧ (hasHttpScheme (lstrip (resultUrl api env path)) = false ∨
        ∃ text, service (lstrip (resultUrl api env path)) = .error (.requestException text none))) ∨
      hasHttpScheme (lstrip (resultUrl api env path)) = true ∧
        ((∃ r, service (lstrip (resultUrl api env path)) = .ok r ∧ raisesForStatus r.statusCode ∧
            e = httpErrorText r ∧
            (sendResult api service env path).events.getLast? = some (.logError r.text)) ∨
          (∃ r, service (lstrip (resultUrl api env path)) = .error (.requestException e (some r)) ∧
            (sendResult api service env path).events.getLast? = some (.logError r.text)) ∨
          service (lstrip (resultUrl api env path)) = .error (.other e)) := by
  simp only [sendResult, Script.emit, Script.mk_ok_bind, List.singleton_append] at h ⊢
  split at h
  · cases h
  next err hpost =>
    simp only [List.cons_append, List.nil_append, List.getLast?_cons_cons] at h ⊢
    rcases requestsPost_raises hpost with ⟨hscheme, rfl⟩ | ⟨hscheme, ⟨r, hr, hstatus, rfl⟩ | hservice⟩
    · obtain ⟨text, htext⟩ := schemeError_eq (lstrip (resultUrl api env path))
      rw [htext] at h ⊢
      exact .inl ⟨(Except.error.inj h).symm, .inl hscheme⟩
    · exact .inr ⟨hscheme, .inl ⟨r, hr, hstatus, (Except.error.inj h).symm, rfl⟩⟩
    · rcases handlePostError_raises h with ⟨rfl, text, rfl⟩ | ⟨r, rfl, hev⟩ | rfl
      · exact .inl ⟨rfl, .inr ⟨text, hservice⟩⟩
      · exact .inr ⟨hscheme, .inr (.inl ⟨r, hservice, by rw [hev]; rfl⟩)⟩
      · exact .inr ⟨hscheme, .inr (.inr hservice)⟩

/-- A service whose every answer redirects again, until `requests` gives up. -/
def redirectLoop (url : String) : Except PostError Response :=
  .error (.requestException "TooManyRedirects: Exceeded 30 redirects." (some ⟨302, "Found", url, ""⟩))

theorem sendResult_raises_redirectLoop :
    (sendResult [("test", " HTTP://localhost")] redirectLoop "test" "/oltpbench/").result =
        .error "TooManyRedirects: Exceeded 30 redirects." ∧
      ((("TooManyRedirects: Exceeded 30 redirects." = noResponseText) ∧
          (hasHttpScheme (lstrip (resultUrl [("test", " HTTP://localhost")] "test" "/oltpbench/")) = false ∨
            ∃ text, redirectLoop (lstrip (resultUrl [("test", " HTTP://localhost")] "test" "/oltpbench/")) =
              .error (.requestException text none))) ∨
        hasHttpScheme (lstrip (resultUrl [("test", " HTTP://localhost")] "test" "/oltpbench/")) = true ∧
          ((∃ r, redirectLoop (lstrip (resultUrl [("test", " HTTP://localhost")] "test" "/oltpbench/")) =
                .ok r ∧ raisesForStatus r.statusCode ∧
                "TooManyRedirects: Exceeded 30 redirects." = httpErrorText r ∧
                (sendResult [("test", " HTTP://localhost")] redirectLoop "test" "/oltpbench/").events.getLast? =
                  some (.logError r.text)) ∨
            (∃ r, redirectLoop (lstrip (resultUrl [("test", " HTTP://localhost")] "test" "/oltpbench/")) =
                .error (.requestException "TooManyRedirects: Exceeded 30 redirects." (some r)) ∧
                (sendResult [("test", " HTTP://localhost")] redirectLoop "test" "/oltpbench/").events.getLast? =
                  some (.logError r.text)) ∨
            redirectLoop (lstrip (resultUrl [("test", " HTTP://localhost")] "test" "/oltpbench/")) =
              .error (.other "TooManyRedirects: Exceeded 30 redirects."))) :=
  have h : (sendResult [("test", " HTTP://localhost")] redirectLoop "test" "/oltpbench/").result =
      .error "TooManyRedirects: Exceeded 30 redirects." := rfl
  ⟨h, sendResult_raises h⟩

end Testing
end TerrierScript
