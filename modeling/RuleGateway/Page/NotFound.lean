import RuleGateway.Http.Message

/-!
# The page for a missing page

What a browser shows when no rule answers a request. The page is kept line by
line and sent as one text.
-/

namespace RuleGateway.Page

/-- The lines of the page. -/
def notFoundLines : List String :=
  ["<!DOCTYPE html>",
    "<html lang=\"en\">",
    "  <head>",
    "    <meta charset=\"UTF-8\">",
    "    <meta name=\"viewport\" content=\"width=device-width, initial-scale=1.0\">",
    "    <title>404 - Page Not Found</title>",
    "    <style>",
    "      body \x7b",
    "        margin: 0;",
    "        min-height: 100vh;",
    "        display: flex;",
    "        align-items: center;",
    "        justify-content: center;",
    "        font-family: system-ui, -apple-system, \"Segoe UI\", sans-serif;",
    "        background-color: #f8fafc;",
    "        color: #0f172a;",
    "      \x7d",
    "      .panel \x7b",
    "        width: 100%;",
    "        max-width: 28rem;",
    "        margin: 1rem;",
    "        padding: 2.5rem;",
    "        border: 1px solid #e2e8f0;",
    "        border-radius: 1.5rem;",
    "        background: #ffffff;",
    "        box-shadow: 0 10px 15px -3px rgba(15, 23, 42, 0.1);",
    "        animation: panel-in 520ms cubic-bezier(0.16, 1, 0.3, 1) forwards;",
    "      \x7d",
    "      @keyframes panel-in \x7b",
    "        from \x7b opacity: 0; transform: scale(0.95) translateY(10px); \x7d",
    "        to \x7b opacity: 1; transform: scale(1) translateY(0); \x7d",
    "      \x7d",
    "      h1 \x7b margin: 2rem 0 0; font-size: 1.875rem; font-weight: 600; \x7d",
    "      p \x7b margin: 0.75rem 0 0; font-size: 0.875rem; line-height: 1.6; color: #64748b; \x7d",
    "      a \x7b",
    "        display: block;",
    "        margin-top: 2rem;",
    "        padding: 0.75rem 1.25rem;",
    "        border-radius: 0.75rem;",
    "        background: #0f172a;",
    "        color: #ffffff;",
    "        font-size: 0.875rem;",
    "        font-weight: 600;",
    "        text-align: center;",
    "        text-decoration: none;",
    "      \x7d",
    "      a:hover \x7b background: #1e293b; \x7d",
    "    </style>",
    "  </head>",
    "  <body>",
    "    <div class=\"panel\">",
    "      <h1>404 Not Found</h1>",
    "      <p>The link you are trying to access does not exist or has been moved.</p>",
    "      <a href=\"/\">Back to home</a>",
    "    </div>",
    "  </body>",
    "</html>",
    ""]

/-- The page as it is sent. -/
def notFoundText : Text := Text.join '\n' (notFoundLines.map String.toList)

/-- The answer when no rule matches. Browsers may keep it for a minute. -/
def notFound : Response :=
  let page := Response.withBody 404 "text/html; charset=utf-8" (Utf8.encode notFoundText)
  { page with
    headers := page.headers.insert "cache-control" (Utf8.encode "public, max-age=60") }

end RuleGateway.Page
