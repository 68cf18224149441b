import OfflineSite.Config
import OfflineSite.Json.Literal

namespace OfflineSite.Script

/-- The lines that settings do not touch, up to the end of the install handler's work. -/
def install : List String :=
  ["",
   "self.addEventListener('install', function(event) \x7b",
   "  event.waitUntil(",
   "    caches.open(CACHE_NAME).then(function(cache) \x7b",
   "      return Promise.all(PRECACHE.map(function(path) \x7b",
   "        return fetch(path).then(function(response) \x7b",
   "          if (response.status === 200) \x7b",
   "            return cache.put(path, response);",
   "          \x7d",
   "          console.log('Offline cache: failed to cache', path, response.status);",
   "        \x7d).catch(function(err) \x7b",
   "          console.log('Offline cache: failed to cache', path, err);",
   "        \x7d);",
   "      \x7d));",
   "    \x7d)",
   "  );"]

/-- The lines from the end of the install handler on. -/
def handlers : List String :=
  ["\x7d);",
   "",
   "self.addEventListener('activate', function(event) \x7b",
   "  event.waitUntil(",
   "    caches.keys().then(function(names) \x7b",
   "      return Promise.all(",
   "        names.filter(function(n) \x7b return n !== CACHE_NAME; \x7d)",
   "             .map(function(n) \x7b return caches.delete(n); \x7d)",
   "      );",
   "    \x7d)",
   "  );",
   "  self.clients.claim();",
   "\x7d);",
   "",
   "self.addEventListener('fetch', function(event) \x7b",
   "  if (event.request.method !== 'GET') return;",
   "  if (!event.request.url.startsWith('http')) return;",
   "",
   "  event.respondWith(",
   "    caches.match(event.request).then(function(cached) \x7b",
   "      if (cached) \x7b",
   "        fetch(event.request).then(function(fresh) \x7b",
   "          if (fresh && fresh.status === 200) \x7b",
   "            caches.open(CACHE_NAME).then(function(cache) \x7b",
   "              cache.put(event.request, fresh);",
   "            \x7d);",
   "          \x7d",
   "        \x7d).catch(function() \x7b\x7d);",
   "        return cached;",
   "      \x7d",
   "      return fetch(event.request).then(function(response) \x7b",
   "        if (response && response.status === 200) \x7b",
   "          var copy = response.clone();",
   "          caches.open(CACHE_NAME).then(function(cache) \x7b",
   "            cache.put(event.request, copy);",
   "          \x7d);",
   "        \x7d",
   "        return response;",
   "      \x7d).catch(function(err) \x7b",
   "        if (event.request.destination === 'document') \x7b",
   "          return caches.match(OFFLINE_FALLBACK).then(function(page) \x7b",
   "            if (page) return page;",
   "            throw err;",
   "          \x7d);",
   "        \x7d",
   "        throw err;",
   "      \x7d);",
   "    \x7d)",
   "  );",
   "\x7d);",
   "",
   "self.addEventListener('message', function(event) \x7b",
   "  if (!event.data) return;",
   "  if (event.data.type === 'SKIP_WAITING') \x7b",
   "    self.skipWaiting();",
   "  \x7d",
   "  if (event.data.type === 'CLEAR_CACHE') \x7b",
   "    caches.delete(CACHE_NAME);",
   "  \x7d",
   "\x7d);"]

/-- The lines of the script. Settings enter it as JSON literals, each on a line of its own. -/
def lines (config : OfflineConfig) : List String :=
  ["// Offline cache worker",
   "const CACHE_NAME = " ++ Json.literal config.version ++ ";",
   "const PRECACHE = " ++ Json.listLiteral config.precache ++ ";",
   "const OFFLINE_FALLBACK = " ++ Json.literal config.offlineFallback ++ ";"] ++
  install ++ (if config.skipWaitingOnInstall then ["  self.skipWaiting();"] else []) ++ handlers

/-- The script; every line of it is ended. -/
def text (config : OfflineConfig) : String :=
  String.join ((lines config).map (· ++ "\n"))

end OfflineSite.Script
