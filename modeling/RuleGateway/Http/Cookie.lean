import RuleGateway.Text.Blank

/-!
# Cookies of a backend

A cookie that names a domain would be refused by the browser of another host, or
would reach hosts it was not meant for. Without that attribute it is bound to
the host that the client talked to.
-/

namespace RuleGateway.Cookie

/-- The name of the attribute that binds a cookie to a domain, with its sign. -/
def domainLead : Text := "domain="

/-- Whether an attribute names a domain. -/
def isDomain (part : Text) : Bool :=
  let text := Text.trimStart part
  Text.sameLetters (text.take domainLead.length) domainLead &&
    !(text.drop domainLead.length).isEmpty

/-- The parts of a cookie that are kept: its name and value, and all attributes
but those that name a domain. -/
def keptParts (cookie : Text) : List Text :=
  match Text.split ';' cookie with
  | [] => []
  | pair :: attributes => pair :: attributes.filter (!isDomain ·)

/-- The cookie without its domain. -/
def withoutDomain (cookie : Text) : Text := Text.join ';' (keptParts cookie)

end RuleGateway.Cookie
