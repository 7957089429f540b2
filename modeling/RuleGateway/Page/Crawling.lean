import RuleGateway.Http.Message
import RuleGateway.Router.Basic

/-!
# Documents for crawlers

The robots file says whether the site may be crawled, and the site map lists the
literal base paths that rules answer at. Every text in the site map is escaped,
so nothing in a base path or a host name can add or close an element.
-/

namespace RuleGateway.Page

/-- The entity or character that stands for a character in XML text. -/
def xmlChar : Char → Text
  | '&' => "&amp;"
  | '<' => "&lt;"
  | '>' => "&gt;"
  | '"' => "&quot;"
  | '\'' => "&apos;"
  | c => [c]

/-- A text as XML content. -/
def xmlText (text : Text) : Text := text.flatMap xmlChar

/-- The robots file of an origin. -/
def robotsText (origin : Text) (allowed : Bool) : Text :=
  "User-agent: *\n".toList ++
    if allowed then
      "Allow: /\nSitemap: ".toList ++ Text.dropFinalSlash origin ++ "/sitemap.xml\n".toList
    else "Disallow: /\n"

/-- The lines before the entries of a site map. -/
def sitemapHead : Text :=
  "<?xml version=\"1.0\" encoding=\"UTF-8\"?>\n".toList ++
    "<urlset xmlns=\"http://www.sitemaps.org/schemas/sitemap/0.9\">\n".toList

/-- The line after the entries of a site map. -/
def sitemapTail : Text := "\n</urlset>"

/-- The entry of one address. -/
def sitemapEntry (address : Text) : Text :=
  "  <url>\n    <loc>".toList ++ xmlText address ++ "</loc>\n  </url>".toList

/-- The site map of an origin: an entry for each literal base path. -/
def sitemapText (origin : Text) (router : Router) : Text :=
  sitemapHead ++
    Text.join '\n' (router.literalBases.map fun base =>
      sitemapEntry (Text.dropFinalSlash origin ++ base)) ++
    sitemapTail

/-- The answer to a request for the robots file. -/
def robots (origin : Text) (allowed : Bool) : Response :=
  .plain 200 (robotsText origin allowed)

/-- The answer to a request for the site map. -/
def sitemap (origin : Text) (router : Router) : Response :=
  .withBody 200 "application/xml; charset=utf-8" (Utf8.encode (sitemapText origin router))

end RuleGateway.Page
