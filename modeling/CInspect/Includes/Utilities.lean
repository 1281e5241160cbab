import CInspect.Text.Packed
/-!
The library headers for text and program services: regular expressions, searching tables, file name patterns, option parsing, message catalogues and error reports.

Each entry is the full path of a header and its text, reduced to the
declarations and macros that programs can see, each on the line it
stands on in the header.
-/

namespace CInspect.Includes

/-- The text and program service headers. -/
def utilityHeaders : List (String × String) := Text.unpackEntries <|
  String.join [
    "/usr/include/argp.h`~3!!#ifndef _ARGP_H`#define~)!3`#~'!k <stdio.h>~+!6ctype~.!6getopt~.!7limits~.!7errn~%!u`__BEGIN_DECLS~-%g_error_t_~&%hd`# ~(%r~0!> 1`typede",
    "f int ~'!B;`#endif~'&lstruct argp_option`@```  const char *name;`~%!:int key~'!1~,!Iarg;~)!Gflags~%!I~0!Kdoc;~)(>~&!Qgroup;`$;``~)(AOPTION_ARG_~&!.AL\t0x1~2!FHI",
    "DDEN\t ~&!!\t0x2~&)E~/!oLIAS\t\t0x4~-)m~.!IDOC\t\t0x8~8!DNO_USAGE\t\t0x10~-'g;~-'tstate~.!6child;``~)(j~'(f (*~%!Dparser_t) (int __key,~''[__arg,`\t\t\t\t  ~1%7",
    " *_~&!,);~/&2~%,3ERR_UNKNOWN\tE2BIG~4,z`~4!aKEY_ARG\t\t0~:!A~%('1000006~3!FEND~*!E1~7!nNO~&!q~(!L2~5!JINIT~*!s3~3!FFINI~*!F7~4!lSUCCES~*%:4~4&/RROR~*!o5`~2-Z~--",
    "S~2-u *~&!+s~,,p~-)i ~&!,~(!D~1.!s_~)-W~:-q~4%Q~%+> *~%!*ren;~,)_ ~'!k(*help_filter~/+H~+%:__text, void *__input);~6&,p_domain~//N~)((HELP_PRE~%.?0x2~'*<~7!LOST",
    "~-!M2~7!MHEADER~)!K3~7!KEXTRA~)!J4`~9%tDUP~%+f_NOTE ~(!U5~7!R~%!N~,%z6~044~%([`@~5)*~&'b~E3mhead~**X~33o~21]~9%Droot_~.%Iargc;~)*I*argv~*!Anext~&!1unsigned~/&!~",
    ")!:arg_num;~+%wquote~%3, ~'*u~%*s~,!4~&,-~&+3s~,!<hook;~,,9~(7o  FILE *err_stream;~)!7out~)!7~)!qp~'4u$;~62vPARSE_ARGV0  0x~522NO_ERRS\t0x~&2)~5!p~*2T~3+;IN_OR~",
    "&,008~4!bHELP~'7?~2%LXIT~%+=~0!?LONG_ONLY\t0x4~1!BSILENT    (~,!q |~-&Q~+!2HELP)~)&Yextern~)8<~*2M (~3+1__restrict ~%8Dp~%8E ~&*5~%!5c~(8g~1!Pv~(!P~)+%__~%+>,~%",
    "!e~1!T_index~(!Y~(2,~+!H~(27~/&>~&%l~U&A~O&C~X&E~=&G~.(l~14fprogram_versio~)64~'!S~%%'(~5!N_hook) (~&-u~-%K~&.&~&=l~8=m~(!S~(!I~0>'~A&+bug_addres~'13~4+Nerr_exi",
    "t~%%+us~17J~%4v~)B:~07?~%!BSHORT~'!H~%/N~3!GE~&!f4~3!?LONG~%!A8~3!A~*8o10~4!C~,8f~3!D~%Dr(~1!v~(.w~-!k)~3!gBUG_ADDR~&07~6&7~(0Y80`~5'hEXIT_ERR~&?>~8!EOK~&9+~6!k",
    "STD_ERR \\`~(1Q~((*~-&G~(%:)~9!l~%)%~1!n~*)A~-!v~;%.~6%-HELP~I%,LONG~2%-OK~%!g~-!<~0)0~((l)~0.e~%,Uhelp~K1d~'L3~=/)~'!H~21X~(Bp~+!Zname~*3U~%%i~'3R~O%k\t~;%f~2%",
    "Z~%!U~(%a~'%S~+!!~1'L~%1'~8%e~21d~(1Z~*40~>2a~.'W~&5q~%&!~6'B~e%a~F%c~9%e~3'Husage~=%_~(4q~3&K~K!d~5(s~%5-~S'0~.Jb~+!Gfmt, ...)`~%',__attribute__ ((__format__ (",
    "__printf__, 2, 3))~6&a~X%v~.Gz~q%x~:,rfailure~U&)~&*S~&9X~&=U~%[wnum~|&K4, 5~8(H~]&D~D&F~|&H)~,.:~%%G~&Ty_is_short~4&K~(UM__opt) __THROW;~-!n~_!o~9%eend~g%c~P!m",
    "~/,7*~&)q~%E=~NGC~L*C~))J~.&E~(Ft~X%Q~_%R`#if~&iSUSE_EXTERN_INLINES``# if !(~(iK_LIBC &&~&!,)`# ~*iz~+4h~*!.~2!F~+7Z~/!3~-!P~0+<~0!4~7!Qend~/+.`# ~'kA# ~'lB~&ed",
    "I~+!j~'!5 __~&(h_inline~*!c~(!Evoid`~P7U`@` ~4:]~(0a stderr,~4D&);`$~*%Nint`__NTH (~T.f~&%Yif~'!d->~%:u &~+kP~&*Ireturn 0;`  else~%!8@~&*g ~)bv =~&(N->~%nh~&!B~",
    "'!b~&!E> 0~%*X~%!0<= UCHAR_MAX && is~%2< (~%!C)~&!h$~D&m~F/p~&&k~'%a!~*%| &&~)!2name~,!3doc~,!2~(_O~E-4u~'sN~.-(~-!9~.,o~(!>~3,Z~2!>~,,J~(sq~*u>bits/floatn~&uXf",
    " ~)&%_LDBL_COMPAT ||~%!4OUBLE_REDIRECTS_TO_FLOAT128_ABI == 1`# ~.%/argp-ldbl~%%2~'%T__END~(vY~'!8\x00~0xuz~5xu~,xtZ~/xtZ_H\t1~,&afeature~8x:~,yHring~|xO~6xO~4ZK",
    "z_create (~&;o~&,0~&Yc[]~9Z'z~+G,size_~0Yqlen~29D~+Ve~e%H~D%F~7X4~(%K_se~)JJ~3>p~&(x~&Z:~'?dep~?%l\t~F%i~'%f~'!P~(([ount~0%b~%%(~*!Mlen~.9S~-A[pure__;~/%.~s%,~/",
    "=|~'&8extract~;'y~2%<~*DK~7d>)~6=n~d%A~D%>~6&d~&*<ify~(,7~5%4~(GAep~<&;~]!s~6,Wapp~&7U~V-k~%!j~-(k~8(*buf~+%xbuf~2*g~9%vd~B%s~D%p~</7~5)C~0%T~'0*~B2g~G'Q ~A0w~'",
    ")Ddelim~9'P~**Edele~*3N~_'P~2%eentry~03X~6'Pinse~%BH~k+&~3*xefore~C+I~4&0~4&-replace~|)Z~0)Z~D!Jwith~7aW~.!M~'&5~&54~.cZ~,pC~+0[_nex~L33~/&W~J(>~-%J~d%H~K)d~<OA",
    "~/LM~'!w~*Gz~9%y~;%n~2)F~&%f~,K/~&!5~.J_~*!< <~'!z +~+%+)`\t~(!D= strchr~)!V, '\\0') + 1;`~0K;~&!X>=~4%! ?~(,i) NULL :~*!3~'!a~(KK~+Ll~)%*~)!n> 0~,!r~'%9: 0;`$~",
    "?(9~W(7~:(5~.%p~&%(~(!t~+!m~)*W;`$~LI*byteswap~>I.BYTESWA^-%F+~*!7~:I6~1L4~*%>>^/%-Abswap_16(x) __~(!1 (x)~1!I32~,!I32~5!I64~,!I64~&!I~5'+cpio^?%I,CPIO~,'!~&!3 ",
    "1~4!Y~-&SMAGIC\t\"070707\"~,!=C_IRUSR\t\t0004~+yeC_IW~(!;2~.!;X~(!;1~.!;RGRP~%!;04~.!o~)!;2~.!o~)!;1~.!oOTH~&!;^+%&OC_IW~*!;2~-!o~*!;1~-&USUID\t\t~%&T~-%0SG~&!;",
    "2~0!;VTX\t\t~%&T0~.!pBLK\t\t060~0!UCHR\t\t~%!o~.!;DIR\t\t~%%H~.!;FIFO\t~%%/~.!;SOCK\t01~2!ULNK\t\t01~2%1CTG\t\t01~2!rRE~%!<~%'6~7+Benv~?SQENV~-SQ~&!3~;.=~3SR~-.",
    "S~&Ts~3SS~-8Senvz~'4<~:8Tenv~,2M~%!X~CDt~%|0~MM=~+%eget~W%c~'y;~g%h~3AE~%%8~9HW~%%i~:E*~L'a~?!Gvalue~>CG~%%<merge~A&' ~E&)~=?hvz2~/!r~'!9~,N]override)~8I9~%%Are",
    "move~|(2~**+~=%Tstrip~?%S~=%R~,%.~C:werr~<0M\t_ERR~*0L~'!2~<0K~(!M_need___va_list~-c*darg~'f4~&%4_GNUC_VA_LIST~,bmgnuc~(!j\t~&sn~+=U~/ck~,'wwarn~0/K~&z&~UzK1, 2",
    "))) __COLD~.VIv~<%:~.&=~S%F0~,%F~2&ax~u&b~3&Xx~|&Y~%&Y~1-3rr^(%UL^(%(4~S&ano~&Ed__, ^?%,t~6)S~J%V~H'*~H%d0~8%derrx~|'>~P'>~=%W~|'7~'--~|s7~8s7err~Ts6~%9B~?AbRRO",
    "R~-Ac~&!4 ~;L&~12|~1-io~1,5^-%2! ~l0]3, 4~-(n~1%X_at_~%QT~M%c~*=k^1%=Jlineno~n&=5, 6~.4:^0%Q1~&&C~%!V_prog~&;N(void~,2<~-%|~&!Xmessag~']M^0%3U~&!Gone_per~%&S~|,",
    "Z~>,Zo~,,]lse~&+y ~-%>~'W!always~(W+&&~+!Fva_arg_pack`# ~4%5~%%0^/%&c~D-txecinf~5S!~*-vXECINF~-S&~*!7~;.!~8<|int backtr~%g!~&=Z~%YPray~)pxiz~%B_nonnull ((1)^.%D",
    "s~'BV~)!q_symbols~(!y~&,G~5%'~0Il~:%4~%!r~1%2_fd~C%5~(!/fd~B%?~C))fmtmsg~>2|_FMTMSG~,)'~)!6\t~L3'enum~%_ZMM_HARD = 0x001,~*XY~'!<~'!+~&!OSOFT~'!O2~-!O~%!<~'!+~&",
    "!OFIRM~'!O4~-!O~%!<~'!+~&!OAPPL~'!O8~-!O~%!<~'!+~&!OUTI~'!O10~-!O~%!<~'!+~&!OOPSYS~&!P2~.!P~&!=~(!,~&!RRECOVER~&!T4~.!T~(!?~*!.~&!XN~%!1~&!W8~.!W~'!>~)!-~&!UPRI",
    "N~&'k10~.!T~&!=~(!,~&!RCONSOLE~%!T~,]Y~+!>~*!.^&%mh~,)WNOSE~%%p~.%l~%!9~(!,~(*,LT~/*!LT~(!+~&!G~%:>~-!H~%!5~)!,~&!JWARNING,~+bS~)!8~+!.~&!QINFO~,!LINFO~)!;~%&J~",
    "-&3ULLLBL\t(~)jH0)~0!DSEV\t0~0!8MC\t((long int~4!ZTXT~=%%AC~>!DTAG~.!D~1(]TOK = -~..8~&!:~(!,~',6K~1)/~&!H~(!ENOMSG = ~0!rMSG~)!,~(!NCON = 4~.!MCON~)!,~'(8~,5C~",
    "&1f ~)'X __classification~0=%label~'Zl~'3Oeverit^6&&>`~3W8ac~4%(tag)~0tYMISC~-&*add~(%>~)?h~7%O^&%'>~+U/~K:-fnmatch~;:,\t_FNMATCH~,U=~)!6~&5'f~&TQcplusplus~(&D\"",
    "C\" @^+%9r#u~%!yFNM_PATHNAME~,!7NOESCAP~-!7PERIOD~*-c~-!d\t(1 <<~+,;~-!n~'!B1~.!B~&!x~'!?2)~%&: !~)>HPOSIX_C_SOURCE~%A2~/!6< 2 ||~*?%GNU~'!>~*WIFNM_FILE_~%%y ~.",
    "&p~,!ILEADING_DIR ~&%f3)~.!FCASEFOLD\t~'!D4~/!DEXT~%(c~(!D5)~*(E~.'=~&!K1~))a~%+UXOPEN~5&;NOSYS\t(-1~+!x~-.+~&*j~0UUpatter~1,|~%H]^0%dv~3*i~*wP~6,3ts~6t9~>!!~*,",
    "PTS~-,LTS~<CO~+_Lys/typ~(=f^(%Cf^'%K-@`\t~'!-_ftsent *fts_cur;~7!=^&&;?~1!?~%!A~%B);`\tdev_t fts_dev;`\t~&'vfts_path;`\t~%(Zts_rfd~+!1pathlen~+!5nitems~'!4(~&%Q",
    "ompar)~()<~&CX~()3~&!1~%(x~(*pTS_COMFOLLOW\t0x^,&4:~%!ALOGICAL~&!>2~-!>NOCHDIR~&!>4~/!>STAT~&!=8~-!=PHYS~)!x~*w8~%!?SEEDO~&!Z2~.!=XDEV~%!;~+xGFTS_WHITEOU~&!X8~.",
    "!X^&%RaMASK~%!Bff~.&uNAME^'%xJ~,ye~&%YTOP\t~%Az0~*(A^)&;,$ FTS~05zLARGEFILE64~B*t64~:*v~)!?~5*x64~|*z~[*z~7'H64~*8B~/'7~(-E~8.8ycle~7.:parent~7!Alink;`\t~%<K~%&",
    "Oumber;`~'k[~%!goint~%!7~*'Qacc~''T~9'h~%yp~+!3sym~%'z~)Uc^&%Zm~.(-~3!Aname~%!A`\tino~')8i~%%*~0)Inlink~'!5~%!/~//<ROOTPARENTLEVEL\t-1~1!C~&!<\t 0`\t~*%Slevel~/",
    "!sD\t\t ~.!fDC\t\t ~./yDEFAULT\t 3~.!:NR\t\t ~.01DOT\t\t 5~.!7P\t\t 6~-!6ERR\t\t 7~-!7F\t\t ~.0hINIT\t 9~./DS\t\t~/0sNSOK\t1~.&BSL\t\t1~.&BSLNONE\t13~.1&\t\t14~",
    "5)1info~0'VONT~&30 ^,&0d~&%.Y~(4.~%Nu~5!z^(&?I~,!]AGAIN~0(Y~(!q~04ZINSTR~0(]SKIP\t ~8&Astr;`~)-ista~'-fstatp~(-)~(,%[1]~'/MENT~L2w~*2/~:3)~5/g~(!B~7/i~(!C~|/k~|",
    "/kno64~R/m~3/0~;+q~<+5~I*3~((0~C*5~,5e~.ZZ~*[UUSE~&FrOFFSET64`~&!c\t~*8kren (FTS *~%D-);`int\t~%%Cclose~'!A);`FTS~&!]open^(%(Q~'7j~&!d~+Nw(*)~'8;~&%B *~)8>~)!4)",
    "~&%!~)%cread~*%>~)%Wset~)%u~(!c~&&'~,N8lse~%hT~&&x~(iQ~%h)~,'5TIME_BITS~+'3~*!S (~,'?,~-'A, fts64~)!B~(%v~1!elose~(!b~*!Zlose~('p~0!Wop~%%<~7(%\t\t~K(!^)%4C~&%F",
    "op~%%|~8&hread~1&%read~2&X^&%G:~'(f,~7(g~(!jset);`#^'%Hp~Q(:__~.(<_time64~I(D~)!flose~*!c~|(M~1(M~(%Oop~,&5~H(V~(!dread~9&v~G(b~%vC~(!wset~*!v# ~(q/~&(w~<-S# ^)",
    "&!P~-0i~.(y~1!K~%0p~+([~0!E~%0y~*'P~0!C~%0<~*'1~0!Cset~*+A~)+>~,&S~,sj~99r#~A0N~'4s~+&h~%(A64~/3g~,&i~)!F~&)x64\t~(!k~A3q~73t~%Jf~.+I~%!6~*3x~*%z~)4!~'%Q~(4&~&'",
    "R~+&8~*!_~14,~+*?~/4.~7,H~+'G,~/'H~Q/T~('p~*!o~O/X~'(9~Q/Z~:(6~W/a~'(a~5&B~G/e~&)0,~;)1~?/kl~2.P~),H~7(k~6/M~4(R~5/V~3'J~5/b~3'0~4/k~2&V~9/l~DiMtw~8a<~)?wFTW~._",
    "xW^H%O5~-_y~.!:stat~6zz~*pdFTW_F~*oe~%!2\t~&!*~'!BD~.!BD~&!BD~(!BNR~/!DNR~'!FNR~'!HNS~.!GNS~&!FNS`^/%-u~(nN~-iI~%!9~&g7EXTENDED`~'%)SL,~+gE~%!4~&%*SL~*f+~,4h~6!",
    "nDP~/!nDP~'&?P~)%8N~0%8N~)!<~(%:~%rk~=%>~-(KPHYS~'t;~,%)PHYS\t~(!,~'!OMOU~%|_2,`~.!Q~%!<\t~)!-~'!S~%QD = 4~/%*~&Q]~)!-~('%EPTH = 8~/'+EPTH\t~)!-~+F-USE_GNU`  ,~",
    "'!jACTIONRETVAL = 16`^+&<)~1!E~0!4~).-$~0PjGNU~/'_CONTINUE~&xI~/&[~'!?\t~,!0~()ATOP~&(A~/)HTOP\t~(!,~(!PKIP_SUBTREE~'(I~/!Y~,!E~0!4~-!lIBLINGS = 3,~5!l~(!E~1!5`",
    "$~*Mg^(&uvFTW`^(%nu^&%3Fse;~)!1~'P*  ~,!a^-&4-(*__ftw_func_t)~0pWfile^,%<'^/&F0~&V7^0%<sfl~%yy~BV%~+%P64~K%R~3%T64~:%V~3Ak~/.c~0%cn~N'8~I'9~+!V~*);^&'(;fo~%9h~I",
    "'Xn~K'Y\t~>'S^+&6:~%%v~8%m~-8u~.89~3U5~,wetw~0%sdir~&=p~((7 _~%!,^*&*|scriptors^)%9-^+%9%, 2))~XSn^-&Qd~,?lw,~J%y^/&v;~,&), ~%(p)~6&,~'?L~|%T~*%T~(.+~'Au~;'n~YN",
    "%w~&&g~6Bzw~/%Q~qLa~.+164~:'Z~)-P~+']~4'X~7'B~9Jv~:)>64,~O%b~(2Z~3)E~)N/~O)N~/(d~&0] ~)0h~?(h~>>D~%0( ~G0)n~:0*n~E0+~%''~+5V~Q)!# ~S08n~;.an~;.b~3&9~,&6,~'(Z~>)",
    "9~=0O~|%m,~0*E~A%v~'*c~*+>~=0e~,+_~''+~*&i~1!E~3,'~+%A~.,1~99k~H66n~<0rn~90s~?'z~B.t~I1*n~=1+~8%s~(;b~9)q~,12~N)z~4)/~615~9)1^J%?Lglob^=%?IGLOB~,Rx~&!3~.Rysys/c",
    "def^6%VK~*>U^&%ur~)AR__SIZE_TYPE__~)!C;^0%Yz~)3T~7QE2K8~7!z~*!x~('>^&%[1#^)&_,~'%e^+%u(~&!5~'!b^2%==~%'&ERR^2%Au~%!=MARK^2%Ar~%!>NOSORT^*%As~-!ADOOFFS\t^*%?N~.!",
    "aCHEC~(%'4~/!BAPPEN^(%Bw5~1!b^-%C[6~/!C^-%C]7^1%C]~%(7POSIX2~2(PMISC~*'d~''%GCHAR^(%B-8)~/!DALTDIRFUNC~'!F9~0!FBRACE~(!g10~0!CNO^&&6[~(!E1~0!ETILD~*!g2~0!CONLYD",
    "I~)%t13~5!g_~%(C~(!H4)~+P;_~&-/FLAGS\t(~(*8|~)*'|~+)n|~+)Z  \\~%6e|~-(m|~,)b|~+)N~%0T~,!V~&)(|~/'q|~*']~1!V~''S|~*&S|~,'*|~0&n)~)I4~|&j~O&j)~7.WNOSPACE\t1~/-4BO",
    "RTED\t2~0!R^&%IL^*%2W~(!lYS\t4~3XO~0,4BEND ~,%1~+%j~0!d~+OO~)Rh^.%02~)VH~)1Ggl_pathc~&VQ~&7e*~'!8v;~1!Poffs~*W'gl^)%,O^&&IH^'%oqgl~&j&dir^'%oh~%q9~1&,~+S!dirent",
    " *~%!dread~0!c^)&IO~&!6~:!L~%&v~/!Mopen~&!M~,:N~8%f~&T,gl_lsta~2T%^(&0q,~0Uh~(!<);~.!n~Z!m~*&t~J%f^0'Ja~P%]~3!f~)(%$ glob_t^<%7V~2e>~-WD~*9J~|+s~W+s ~B+t64~;+K ",
    "~I+w ~P+x ~l+y~&[q~f+|~1!o~+&|~|,&~F,& ~.,'64^1't7`~5=K~9R.glob^;&Eo^)%Z&~*Gn~*Qy(*__errfunc~/&C~*zu~'.&~0%&glob^)%(LNL^0&5vglobfree (~*!f~.!X~2bB~FRo_NTHNL~&%&",
    ",~D&w^''s/ ~0''~*!8~E',~&!R~;'1~*R8__~()X^(%&M^/&sY^.%'V~('Q,~2'R~)!|~&!zfree~,%&#~;TP~|'N~e'N~',|~_'<~)+2~(',~:]=~:6*~N+>~3RP~<'n~7'p~Q'r ~)0T~z+I~%&R~,%2~X+M~",
    "&!j~U1e~K'9~A'4~-1k~41j64~4&k^-%6v~.qx~3F>^.%mV~%+s~'&W_p^9%m_~&&squote^V%uXiconv^=&3bICONV^,&.X~'!4^;'4s~)Keneed~)U;^,&Nodef^6%0,~(?U~&8r~%%q~%A[~0'G~&!=^'%=C~",
    "'!K __cd^0'i[~(!?~&!+^'%=U~-'wtocode^1&<bromcode)`\t^,&<Xmalloc~%Y6attr_de~%!4~(%T^'%;61^.&4Q~'B<~%!G~.&)^6'2sinbuf~)_|^5&Tdinbyteslef^*%?k~4!rout~B!sout~)!t^G&",
    "5Flang^8&:L~**iLANG^.&:M\t~+!7 1^-&dbnl_^*%sc^/&>olocale^9&El~)+HNL_ITEM(category, index)\t((~)!7)~%VY6) | (~&!B)~3!j_CATEGORY(item)\t\t((int) ~&!2 >> 1~*[+~*!Z",
    "INDEX~6!W& 0xffff)^*%8t~%H9ABDAY_1 =~)!m (__LC~%7*, 0)^*%8.~'!O\t\t\t~'!-~)!f2~0!I2~)!I2~)!I3~0!I3~)!I3~)!I4~0!I4~)!I4~)!I5~0!I5~)!I5~)!I6~0!I6~)!I6~)!I7~0!I7~)",
    "!I7~%'G~%&g~*!I~('(~('&~/'!~(&z~(&x~/&v~(&t~(&r~/&p~(&n~(&l~/&j~(&h~(&f~/&d~(&b~(&_~/&[~(&Y~(&W~%'*MON~,&Z~'!4~%'*~%!-~)!I2~0!I2~)!I2~)!I3~0!I3~)!I3~)!I4~0!I4~)",
    "!I4~)!I5~0!I5~)!I5~)!I6~0!I6~)!I6~)!I7~0!I7~)!I7~)!I8~0!I8~)!I8~)!I9~0!I9~)!I9~*'x0~1'y0~)'y0~*!K~2(I1~)!K~*(J1~1(K12~)!K2~&)E~/)C~()A~()>~/)<~():~()8~/)6~()4~(",
    ")2~/)0~().~(),~/)*~()(~()&~/)!~((z~((x~/(v~((t~((r~/(p~((n~((l~/(j~((h~((f~0(d~((b\t~)(a~0(]~((Z\t~)(Y~0(W~((U\t~((T  AM_ST^+%I4~&!3\t\t\t~&!,`  P~/!FP~(!F~&!,~",
    "%1D_T_FM^+&CZ~'!4\t\t\t~'!-~%!I~/!G~(!E~&!C~/!i~(!gT~,!C_AMPM~/!H~%!7~'!L~%!/``  ERA~*!KERA\t\t\tERA`  __ERA_YEAR,~2D9~)hS~(!H\t\t~*!T~*a+ERA_~/&I~)!6~%%7_~(&PA",
    "LT_DIGIT^+%Lz~*!7\t\t~*!/~)%&T~4%(T~,%*~('9ERA~4!R~+!P~&!N` ~%9Y~%MUERA_NUM_ENTRIES,~0!?~)!;~'!<W~'9k,~.!32~/!33~/!34~/!35~/!36~/!37,`~)%B~.%?~.%=~.%;~.%9~.%7~.",
    "%5~)%3~*%G~'1V~-!32~/!33~/!34~/!35~/!36~/!37~/!38~/!39~/!310~0!4~0%u12~,&B~.&?~.&=~.&;~.&9~.&7~.&5~.&3~.&1~.&/~/&-~/&+~)&)~(&;~'1%~'!2~(14~)(y~(,O~)!3~,!1T~2!1~",
    "'0>~(!7~*/a~+!4~.!l~,.l~-!I~.%-~+.2~,-NWEEK_NDAY~.-h~%!:1STDAY~5!;WEEK~-!<FIRST~%!C~0!W~'!=OR~1!=CAL_~&V0ION~-!=TIMEZONE~&&'DATE~.0E~)!6\t~)!-~(&g~+!R~-%;ODESET",
    "~(+>_ALT~*+>~(!12~-!13~-!14~-!15~-!16~-!17~-!18~-!19~-!1~'+>~)!2~.%a~%8y~95]~(!I\t\t~*!U~1!B2~+!B2~1!B3~+!B3~1!B4~+!B4~1!B5~+!B5~1!B6~+!B6~1!B7~+!B7~1!B8~+!B8~1",
    "!B9~+!B9~2'50~,'60~2!D~-'W~2'X1~,'Y12~+nK~*.I~/4F~,*i~+!43~0!44~0!45~0!46~0!47~0!48~0!49~0!4~,4O~-+,~,!5~,4QAB~0&O~)!52~1!53~1!54~1!55~1!56~1!57~1!58~1!59~1!5~*",
    "&X~*!6~2&1~.72~2&[W~2&]W~2&_W~2&aW~2&bW~2&cW~2&dW~2&eW~2&fW~3&gW~3&hW~.&i~&!8NUM~)V)`~*'&COLLATE_NRULES~2VZ~'!D~&V_~.!W~%!VE~*7;~(!;TABLEMB~0!:WEIGHT~2!;EXTRA~2",
    "!:IN~&63~2!=GAP1~3!72~3!73~5%oWC~6%o~2!;~%%o~2!:~(%o~2!=SYMB_HASH_SIZ~3',~%!D~7'I~%!?~7'5COLLSEQ~9!<~2%Z~)8e~-**~()O~,*-TYPE_CLAS~4**TYP~.*(~%!RTOUPPER~.!8~-(o~",
    "'!KLOW~3!K2,~2%L32~1!K3~1!54~1!55~1!56~3%,_NAM~*IH~&!<MAP~4!:WIDTH~/!NB_CUR_MAX~/%*~&(6~%!m,`  ~'!3~''q~4!H~(>8~'!9\t\t\t~'!-~4(1~0'9~''y3~4'i^'%)q~2&a~4!;IN~&C",
    "Y_MB_LEN~6!A0_~++E~-!=1~9!=2~9!=3~9!=4~9!=5~9!=6~9!=7~9!=8~9!=9~9!=_WC~<'I~+.Q~/'I~8!=2~9!=3~9!=4~9!=5~9!=6~9!=7~9!=8~9!=9~1!=OUT~%!>~2*Q~(!=1~9!=2~9!=3~9!=4~9!",
    "=5~9!=6~9!=7~9!=8~9!=9~9!=0~9'F1~9!=2~9!=3~9!=4~9!=5~9!=6~9!=7~9!=8~9!=~2*3TRANSLIT_TAB~%91~7!CFROM_IDX~<!CTBL~8%,O~;!cTO~;!a^'&]Q_MISSING~2/U~8!N~7!JIGNORE~;!n",
    "~&!E~24nTO_NONASCII~.!A~(!9_CAS~/!]~%<O~%!e1~8!<2~8!<3~8!<4~8!<5~8!<6~8!<7~8!<8~8!<9~9&_0~9!=~9&|1~9'!1~9'%14~0?X~%?'~(?V_INT_CURR~%B+OL~2?XMONETARY~'|E~9T2~/!p",
    "\t~1%*~*h|_~%!:ENCY~'!>~<%'~/!O\t~1!d~,%'MON_DECIMAL_POINT~<%)~1!Q\t~3!h~0%-THOUSANDS_SEP~A%-~-!Q\t~3!h~0%-GROUP~%.l~>%(~(!L\t\t~.!]~,!wPOSITIVE_SIGN~<!x~-!M\t\t",
    "~/!a~,!zNEGA~F!z~-!M\t\t~/!a~,!zINT_FRAC~*nj~=+9~+!O\t~1!d~,%'~H!|~,!w\t_~8!tP_CS_PRECEDE~=!v~-!M~%'v~,!4~.!zSEP_BY_SPACE~>!|~,!N~&%!~,!5~-(x~I&!N~0&!N~8&!N~J&!",
    "N~1&!N~9&!P~%*4_POS~>+v~*!K~'&x~(!2~/%v~E!tN~.!tN~5!tNL~)3)_CRNCY~-zK~(!5\t\t~5!M~),V~J*_~1!Q\t~3!h~0-c~K*k~2!R\t~4!j~0%0N~M&:N~3&:N~<&:N~N&:N~4&:N~=&:~H+4~/!O\t",
    "~1!d~3&4~I%'N~1%'~C+GDUO~09w,~4!H~1:(~7!o~-3:~3!H~A!D~/,I~5!F~.)J~3!GN~B!lN~C!l~3..~9!J~F!tN~F!t~D%m~-+C~6&Y~=!D~1,2~:%[~9!HUNO_VALID~%JV~;!CTO~5%/~;!c~*!C~3!cC",
    "ONVERSION_R~%c)~0!d~,A;~+MM~)!E~-?S~4!E~6dF~)E5~(Ek~-%8~2EiNUMERIC~AEh~.CW\t_~8CTRADIXCHAR =~0%L~*6h~)!I\t\t~)!.~%&'~JD7~.D3\t_~8D0~%!:EP~%%_~0%,~,!rEP\t\t\t~'!",
    "-~%%Z~EDg~,Dc~3D]~&(kERIC~9)p~(!D~8)o~(!D~6)n~():~&)kYESEXPR~3KPESSAGES^.%Jt~'!S\t\t\t~)!b~&<vOEXP~+;p~&!3~%!K~&!.~(%<~&<>^1&2=GNU || (^4&2T&&^0%lq^'&2U^+&+j~&%",
    ")~(%jSTR~->kO~|%F~%%(~'&d~.%DNL~)'l~8.N~((3~(nqPAPER_H~%qw~2(f~%!B~,nr~&!S~-l;~&!6~6%>~&!g~)vSAM^&'Q!_FM~4/iAM~-p2~*!SG~*Ws~*!8MR~4!7S~3!8IS~4!9~.!7~7,9~%n%~'!7",
    "ADDRESS_POSTAL~6&?~'!H~,&C~(![COUNTRY~)oJ~4!?POST~8!?AB2~:!>3~8!>C^*%5_~1%YUM~8!>ISBN~0!?LANG~5&8~%!<AB~5!:TERM~5!<LI~1!U~6(W~((%~((ZTELEPHONE_TEL~&?i~4(_~)!K~,",
    "(b~.!cDOM^,%8G~*!AINT_SELEC~7!?PREFIX~2!?~6&<~*%Z~(&>MEASUREMENT~,!/~43F~)!A~,&C~,!g~8/r~*!_~(%FIDENTIFICATION_TITLE~2%C~.!J~,%F~/!g^&'ZR~7!A~))4~5!BCONTA~*(0~/",
    "!BEMAIL~7!?TE~8!=F~*yt~/!=LANGUAG~8&&TERRITORY~8&GUDIEN~:&iPPL~('U~7!FBBREVI~<!GREVIS~:!CD~+B3~0'v^'%e>~9(=~4*J~/)g`^+%/b^/'q+_NL_LOCA^''eI^*%g4\t~**f~*!8,^(%v_",
    "\\^&)Xr\t ~)+5^&%fa (-1))~<U<~<%>~+!= ~*!>^0&,H^-('Unl_^(%kK (nl_item _~%!*^-(G!^2&[P2K8`^1(,gtype^(%k-_^''%u~8%?_l~0%B, ~(!a __l)^M%tRlibgen^=%tSLIBGEN^,%tT~(!",
    "5\t^K(,5~-&Idirnam^)(Ka__path^9(r&~(!Ixpg_base~=!b~(%w~(!M\t~.!]~E':monetary^>(Jd~)K,^+%q*~*!7^=(dX^J%wx#~3*Q^'%qq~'%V_s~&!f^))0z^*&Rn~'!= s^*&Rk~)%I~0!Z~),q~7)",
    "6~)!strfmon~*(R^,(sP^+(Vomaxsiz^A)QH^3(9K^2(Vo~&!J_~'%J__ (3, 4^-(:'_access ((__write_only^*(Iu;~h.f~/'*_l~N', ~-/)oc^B)PD~X'D4, 5~P'D^|);c^A(;m~(.B^T(EQ^*%|0~;",
    "2BNL_TYPES~,2D~*!7 ~D/'NL_SETD 1~.!7CAT~'6p~%!=^>&+&nl_cat^-*3?int ~'5O^.)8Y~'!P cat^4&*dcat^1'x.^6(;r~-3scatgets~%6r~%%.~%!qalo^)),Aset~(!.^&']I^*&g3^=()_~4%L^",
    "+&-ccat^'&-_~1%J)^a(;Yobstack^U'zI~W!!~)++OBSTACK~,+*~)!6^)(sh~)1KPTRDIFF^'&f[~+s8TR~%IATYPE~3!K^(&D:~36K~5!iptrdiff^,&g&~-7MBPTR_ALIGN(B, P, A) ((B) + (((P) - ",
    "~'!1A)) & ~~(A))^**'<~*!p~2!o~(B+~&B9 ~-%< (sizeof (~,&)) < ~(!;~&-R) ?~%%P^+)&i0,~%C3~%%2`^6)GQ~)(j^1(lZ~,9&~0!? _GL_ATTRIBUTE_PURE^2&A[^?(0r^('iJ~'+a_chunk`@^",
    ")*/>limit;`^)&Qz~.!M *prev^)*1acontents[4]^&*/7~'!Y~'!X~%%&long ~%!d~%<r~;%*~%!*~)%+*object_^('9R~'D?ext_fre~+!6~&%+~)&3union^)&U|~-+Ctempin~%!J^(&SQtempptr;`  ",
    "$~%!D;^(*4Jlignment_mas^(*2i~7&4(~&%Tfun^)&Tm,~%&w);^(*2e(*free~.!F~7!u~*!Y*extra_arg;^,*5Juse_~)!= : 1~-!Bmaybe_empty_~&'n~&!G^/*69lloc_failed~(!D$^2)DT~(%nnew",
    "~&%q(~.)e^*'Ww^-)fZ~'!Zbegin~7!W^*'SN^+&X8)(~%'a,~('])~(.A~<%0_1~E%2~,%4~-(z~/!E~,!D~'%M~)!,~6%Umemory_used~2%Y)^8(xM~*05~(!ofre^-&mA~,!; ~.!I~&/T~-))~.!S~3'8~)",
    "&?~-;M~'&s~(!d~,*C_handler^3(ZCin~)%*^&*/s^')p_;~.4X~))&ase(h) (~)3o(h)->~+/l)~4![~*0l~&!dh)->~*!7~5!W~)0S(h)   ~'!Y~)!9~5!X~./u~*%:~.!;)~3!ainit(h~'7.~,7/~/-0(",
    "h), 0, 0,~.!N\t\t ~(0B~)-+)~.'%~%(h,~5!X~,-O~.!Y~'&j~1([egin(h~&I6)~F&0~%9E)~)&5~|&4~A&4specify~&!|atio~)&B,~*57, ~(4l, ~)4P~C&V(~)!h),~B&b(~)5|~7!P~,&W(~(%V~F&",
    "N_with_arg~G&W, arg)~3&[_1~L&_~-&b~-3N~.&j~4!X~33d~*&r, (arg~4&y~(%&(h, ~(7=~%)*\\` ~,/ofun =~)2T~2:a~1&+~,!t~3%H~'%m~'%G~)*M~*%F~'!6 =~3&]~8;B~%%F~;)j1grow_fas",
    "t(h, achar) (*~01y++ = (~&!C~4/?lank~)!mn)~02e += (~5%P~+8.(h)~78Gh)^0'd'GNUC~%E-if ! (2 <~)!8 + (8 <=~(!4MINOR__)^.)yRextension~%!m~,fS~)8w~(%[~'6A~%5y~'K8)~1H",
    ">~+!w\t~14R  (@ ~/9/^)(i]o = ~)%';~0!_   (~(?[) (__o~,(*- ~%!4~,8:; $)~3&Aroom~.&9~|&:~C&:~+Fa~(&<~*+A~7&:make~-&?, lengt~&8r~a&F~5&?~0&A~&Txle~%.Y~'%J;\t~5!Nf~",
    "D&f~%,2len)~,3%~4Es__o,~'!O~5(/~%?> 0~7'a~&Gbp~|,9~?)z~*',->prev == 0~/=N&&~0'A==~,Rk ^*(f]~*!v~0s2 ~+!?->~(OM~7!J~/A&~8+Hgrow~*+Cwhere~|+J~o+J~+4S~'!b> ~0+f~d+",
    "Jmemcpy~0%A~)'K~:!_~0%u=~&!P~6&O~?,]grow0~|(v~|(v~5(v+ 1~6(z~H(y + 1~|)%~E)%*~/%/~&<m0~V)S1~..Ndatum~g2;~G)L~4(y1~Z-p1~6%5~2Ai~'!T~&&k;~C'_~5>9ptr_~8'g~|'f~A'f~",
    "0fK~X,j~/!n~%%Q~7('~(',~3(* $~-'2~2'lint~|'l~e'lint~e'iint)~5/v~0''~6'g~;+J~&ID~)'aaptr~j'_1~A=L^(';+p1^&*?Q1~+'j~5(9*^-(g'~%==~%!c(~%&0~5!W~/%& +=~)(&^.(gi~R2z",
    "~-(E~+'kint~|'k~g'kint ~,'c~%hz\t~P'd~*!Y~O'Z~%Pj~5IN~|/)~|IO~pIO~2T2~2!W~P(:~%[W~z(:h~B(:~-&L (__h,~)(C~>!Vfinish~%!W~82>copy~|D'~P&[grow~(&Z~%%X)~0&f~b&e~|Fj~",
    "U&f0~k&g~3&i~&!I~oR7~N3rvalue~)cN~&QP1~-ZF;~90Q1~1RM~%!u~.&>\t~'!y~3zh= 1~E8C~/&t\t ~/Sf~1&-,~0!i~.SL~&!A~/SI;\t~G&f-^,*.wo1~'3X~-%r ~&?.1~03w~4!_)~3'R~+('~2!o;",
    "~9'X~+'(~79J~1![~%).~7._~%vf~).]OBJ~|87~9+uobj~&!PJ~>86bj >~-,C~''X^&*]Kobj <~4!C~'Dz~)(M~1(L~0(%~,)>bj;~1%belse~&%d~*'l)~)8]obj~(2z^&'yY~=inh~'nW~+f:~/lY-^4%!l",
    "~6hNh~1hH~1%'~/,,^0%!Z~9cUh~1r!~9b;   &&~/%*~:b=~*!x~/ao~%!.~,%>~7b?~*!L~0bB`~8nH~*ikh~8<x~&&htemp.^'%41~+A<,~0&o(~1qm ~2!g> ~0(V)~-!l? (~3AE~&xX~0!t), 0) : 0)~",
    "9e'h~4:7~|&a~|&a~&&a,~-!k~(]<~.%b~)&k~3!o~/&E~2vr~1!W~9d0h~>>;~w(&~&[>~n(*~%cE~|(.~D(.~1',^6%!H0~:c4h~7c.(~3'z~7'f~.5d~;'i~.'R~-![~4b3~)%n~<W;~N&<~)Tw~'3h~A*5~<",
    "&I~/!s~8*0~7_d~=&X~)_Q~U&X~']G~4)'~P&V~%]M~-)1~3&T~/]Q~F)3^*%,a~(]F~.&X~/Zj^3%,:~0e5)[-1]~)[6~CZ/h~+Z)~.%L~'XK~;%D~%'>~*%A~%!2~9Wn~r9Q~<=a <~311~u6n~4W,h~4!g~:V",
    "n~:':~/Ue~&%m~(P6,~1P!(h))~9UL~B;G~.TD~&%;~1QX~O%E~C8h~/S%~e%F~'Rf~3EM(~2D(~0FH\t~35K~&![~6Q&~%*?~0!X~)5_\t~38Q~)*=ptr ~2%Q,\t~<90~3Lt~0Qx~1!x~/!j^0%D?~6F(,~A=8",
    "~+Q5~*.f~1%o~24X~6!_~0'n?~11M=~25N~59x~0'&~(!_~-''~>(m~9Qxh, obj~3+/~42C~)&dobj)~6&u,~0(6~4F>0~4Qf~(LU~-!P<~I(A)~0,i~&gy~7(G~/-N~)*k~&!,=~5CL~6)f~.-T~2R=h,~J!t)",
    "^**au^4%cz^?)j+path^D)j-^)%VkPATHS_H_^*&!v~)!5`~.!7_DEFPATH\t\"~%%Abin:/bin\"~0!KSTDPATH \\`~/!N:~%!1s~%!-s~4!aBSHELL\t\"/bin/sh\"~/!C^'*'4\t\"/dev/console~1!I~",
    ",!kc~2!lDEVDB\t\"/var/run/dev.db~3!JNU~%!ndev/null~1!FRUM~'!Cdrum~0!CGSHADOW\t\"/etc/gshadow~0!IKLOG\t\"/proc/kmsg~1!DME~(%3kme~1%3LAST~&!ivar/log/lastlo~1!oMAI",
    "LDIR~'!Mmai~1&JMAN~'),share/man~1!G~)%]~3%[MNTTAB~'&mfsta~1(%MOUNTED~'!Gm~3!FNOLOGIN~'!Fnologi~1%VPRESERVE~(&ti~1!nRWHO~*&lspool/rwho~0!LSENDMAIL~(&w~%+Lend~4'G",
    "~-)M~6)L~%+OS~)!Gells~0!GTTY~''mtty~0!AUNIX\t\"/boot/vmlinux~1!GTMP~+,=utmp~0!GVI~*.P/vi~0!CW~*!ilog/w~%!i~2/rV~'%z~1&<~%!etmp~1!=VAR~).1lib/misc~4!IRUN~+&=~3!E",
    "~*%t~&%6~72trintf^=(efPRINTF_H~,&Z~'!6\t1^H&7&^4&3A/FILE^4*[(^(&44^.&4Kwchar^8(0I^4*[R^)%tQ~&&c_info^&+!Xnt prec^(%rVwidth;`  ~'%2 sp~&!A^-*Ghis_long_double:1~4",
    "!Eshort~6!>long~3!=al~4!Tspac~4%2lef~5!Showsign~3!>group~3!;extra~6&%char~3!=wid~5&u18n~6!obinary128:^&+'p^/*Mfpad:3~-!]~%'i~%!Buser~,(hpad^-,->`^/&.n~')efuncti",
    "on^*,!?^0+kj^-)1-~+*D^()0d~0!N^1*F(^'+l?~:%Tar^&&C/~%,I~*%d~F%I\t\t^+*kwn^),(Varg~%-d~)!H~'!;siz^'+lT~;%X~Q%S~%'!~;%U~.%A~%'H~'!s^'*NJ~*%A~(u6mem, ^'*Z[~%!rp)^3",
    "(;6registe^'*Rcf^'%j-ie^**Vspec,~1)n^,(va~&D2~=(__~(!;)` ^0&ET~;%_~*&Q~N%]~8(c~4%V^-%yHdeprecated^**uz~;%rmod~''S~&)h~(-k*^.+Ao __wur;~B!vtype (~7)W__fct~6!z`~.",
    "&%~'*uparse~)'torma^<*yxfmt,~,+X~('xi^4,1q~&+m~0)H^+)G[PA_INT,~&!-CH^&&aePA_W~+!/STR^''B*PA_W~-!1POINTE~(!MFLOA~(!s^&&A'~'!0LAST^-,D>\t~%!RAG_MASK\t\t0xff^+*/|~",
    "(!ALON~&!(\t^*(uQ~4!G~&%;~2![~5!R\t\t^*(v'~/!CSHORT~(!D10~2!EPTR~)!C1)~1)P~+1=size^5,4ifp^+&J3~?1L~54G~.)ds^4*yE~/%X~&%(~=2n^,,6/~%.x~'%V~42x~4+9^-&Hm^|*bY^;&Gj",
    "~&&J^T&Ghregex^?+7CREGEX^,&?Z~'!4 1^9)ZS^K&:Y~*!N^4*F*^*&t(1~1Tc~&%VLARG^((f/S~1:f~))=re^)),u~7!C~%B[~)!H^)*fL~(!O~/>7~+!w~1!F^+*OP~3%'^*%uZ~(!_~)!Ts_reg~>!zact",
    "ive~(!L~.!o~2!Rreg_syntax^2(r2^/(zKRE_BACKSLASH_^&)!j_IN_LISTS ((~1%+) ~'03~-!iK_PLUS_QM (~=!x^&)/6~1!gCHAR^&'ekES~&!i~*!x~+!W~),%~,!bONTEXT_INDEP_ANCHOR~&!k~-%",
    "!~-!m~:!gOP~'!c~5%%~)!l~6!h^&'.z~6!jOP~7!fDOT_NEWLINE~/![~*!v~:!_OT_NULL~%!a~,!q~5!VHAT~&([~&!]~+%E~-!s~*'S~,!d~%9.VAL~&&Y~6!r~5%FLIMITE~*'?~*!p~5!S~'!s_ALT~%!S",
    "~,!f~6%mNO_BK^&)/!~&%1~,!j~6%3~%!VPAREN~'!V~,!j~;!WREF~,!U~'!i~;!UVBAR~+!U~%!g~7-3NO_EMPTY_RANGE~,%6~%!l~5%4U^&*Y5ED_RIGHT~&%d_ORD~(!e~-!y~8%|^&*W6BACKTRACKING~",
    "%!f~:%,~8!pGNU~))j~6%'~9.fDEBUG~(!_~(!o~8+e~&-J~(*x~)&o~&!k~5%pICAS~&,r~5!e~6%8CARET~(00_HER~'!i~%!s~F0?DUP~&/_~2!q~8'oSUB~50;DUP~'!X~,72~':G~,6+ re~(!/^*,j6^5(",
    "kJ~,%JSYNTAX_EMACS 0~5!?AWK~'w|~%s=~=5|  |~02/~'!]~&!<~--s~-!!|~..J~3!Z~%-> ~6!Z~,,w~-!b~+3U\t\t~'!7~55x~,!Y~,7)~+&z~&!A~:-O|~.->)~5'yGNU~*(%~&w>~*!A~&-m^()Wa~&",
    "!x~9(A~'%h~&!J~4,f)~+&6& ~~~16,|~59H~)!W ~1'W~*8-)~6&Y~&&;~.&[~b&Z|~-7o\t~,)w~'(:~.(u~5'/~6(_REP\t~<([BASIC~'%=~*7B)~0(&~4/8~1-4~7'XE~*%U~E*6~52P~1%t ~<%qOPS~6%",
    "q~:)O~/%x~/&9~71/D ~5'z~5!QS~:!R~+Iq~0!FCOMMON~-+?~-CF~002~+,V~.2*~3+?~618~<,|~%&+~+)J~7&*~'-!~*F5|~77&)~859~&!uMINIMAL~+%G~C%F~+AF~<&F~(+K~C%%~=41~,42~1Fe~-5k~",
    "&Av\t~B6g~/6G\t~7%3~/,o~95>)~F(4~,'5~s'4~/&!~Z'4~'9r~59s~*3l~>'/`^*)2z~&SvINCLUD~'*dS_H^-+;e^+-7Q^/)g9RE_DUP_MAX^*,?%~-!7^.'6+~-CV~&!H (0x7fff~.?7~)WHREG~*3M1~0",
    "!=~'C:1~,C!~+!C~)LS^)+!2~/!DO~%B%^()];~*%z~-!HTBOL^-'&-~'!:EOL~-%K~,!CSTARTEND~-%K~*U-~)fm_~%&]NO^&+6,-^&(&s~&%/^&+22= 0~+!7~%)S^('ZAREG_BADP~&fa~&!q^)(C2~)!4^&",
    "(&g~(!2~&:d~*!3SUBREG~*!3BRACK~*!2~%*d~.!B~*!dBADBR~*!A~%3o~+%)P~/!PRPT,~*&4EEND~+!Q^((0y~&!q~%%G`$~%F>errcod~'Yt~,b|^,+&X^9)gA~,+J~((<\t~+(I~(+M~.)[~%(O\t~,(]~",
    "/!E~%(]\t~,(l~-!E~&(m\t~+(y~.,T~')%\t~-)3~/!GTYP~)!ETYP~/!C~&)H\t~,)U~.!E~&)Y\t~,)i~.!E~%)m\t~+)y~.!C~%(W\t~+*1~2!eE~+!eE~0''BR~)'&B~.'i~&*U\t~+*d~/&5P~*%*^''rD",
    "~.%*RP~*(.RP~/(.END~('=ND~/%(IZ~)%'IZ~/%FR~,&p~'+Y~/hLR^((6*AT^&)n<~,g>~1!A~*cy~&sn^3)Ra^*&]G~2!e~3!y^>)En^-'HC__REPB^''R](^&+Qlname^2)fb~2!L__##~'!P^-'(vre^))>",
    "ibuffer^'->a~*!Cdfa~&xV~,%!~&!P)^&-4[~0hU~/%Q^'&k2ed~G!Sus~)!N~-S!~.!J~&!:^*-=h~'xU~,!Gfastm^*%'+ ~5)P~.!Wtransl^(,rK^)%(wre_nsub^2-8r~.!ecan_be_null)^)''2~<)QR",
    "EGS_UNALLOCATED 0~/!?RE~(!? 1~/!>FIXED ^)(g(~9%hregs_~*(W : 2;~=&B~''b_accurate)^4')V~/+:o_sub~F!Mt_bo~*'F~=!Me~F!Mewline_anchor~'!T$;^1++u~1,o ~%t|~&oj~Ar|~)!s",
    "~)*;goff^&)[)~&rM^,%0M~,!B^:)JS~*%k^(%*Bs~&=+~*s, num_regs;~&-;~%%% *start~.!6en^+%5H^)*4dRE_NREGS~.1v~%!6 30^5*BN~.'a^',8+~'%5rm_so;~/!5eo;~&;nmatch~'si~/xkNEL",
    "TS~%%j^,'oJSTDC_^('z/_ && 199901L^&&o_~/!C^&&dm!~/!fNO_VLA__^-&p(~+%E(n) n^+*6<~6!G~44j^1&qh && 4^/&qc6^3&qc`# pragma GCC diagnostic push~9!Aignored \"-Wvla\"~,",
    "%Z~&'uA^*'KO_~+7_^+'Ki~,&]~,!R(arg)^0'L<arg~%&vl~7&i10~+&W_~9%*x)^3+ii~'!A_ x))~3(P~/!h~C9?~:hLet~'!3 (~/6j~-6[~,i;^,%3Hre_compil~)0P^9)U/^,,WLg^',L(^'%9G~:1B*_",
    "~'!-^&%,]~-&y~%'Rread^2'T:`^0%6t~)%y~'5*^)'&(~<%C^0']4~*/<e_search~E!n^6,0DS^',U7~)!|~-'? ~+0V__~%29~-!Orang^)*Rz~33>^&%0Qgs~F'a^&+yc;~>&i_2~M&k^6'O)1~3&n1~>!W2",
    "~3!W2~*!W~K'M~='O~7!xop~L'k~E!N^&--C~9(=^'+Pd~J(:~O+)~2'T~o*h~8&J~P*f~S*e~S*d~N'/~6!Z~|*E^0,Zt^,'CC~'5;~*%t~N.m~G-,~-A,__~(A.~+!E~*?z~''hs,~-!7ends^-'d[~+9[~&<x",
    "~%dpMP^.(26^(-&G~.WiMISC)^/'_%~'5Z^1*)1~.6(exec~1!G~-be~+AT^'%A7_^0*Dx^)%AQ~'w;|| ^0'4A95~3>Z~+!T__clang_major__ >= 3~-A7~(%L~+%>~(=C~<Bm~+[A~+![~3%&~-%!~/Bc~+&",
    "w^;*f>~)!Karr~,A)r~+!;~5%&arr_~2!L~%&W((~>EK^*%'p| 3~/(G1~;(F~;(J~,!H~.FU^)%Ce)~;&C~-'U~8't~''J~/'x~-+ug~&,A~'M; *~-*-preg^5,ei~-!I^*)zo ^)&hGc^)+f&~.%=~,-7~]%D",
    "~(7B~*0N~%5o~(!]~*Ki __p~%!.[~/'=~%tz~,J2 (~(!m)]~.&He~0&H~*P8^-,6r~'gz^()sd~>&[\t~3&Rerr^.,xj~&!4^+,,b~25E^.'sa^&,7?;~058g^&'U9~*%e~%%W);~|Lppop^]&&%~&C)^>)suS",
    "EAR^.+t<~(!5 ^B,MZ^E)zf^1%oY^W+-3`^:*?Mqelem^)'f3~,!8 *q_forw;~5!=back^+*?Qq_data[1]^(+%&~*vR~,*.insqu^),4z__elem^**:*prev^9,S]rem~1!b^3*(=~+(t~%::AR_FN_^-,Q:~,",
    "!:^0*yh^&+g3_fn^+*yf^9+n7~&('\t~*('^*(+>~+!o ~&!/ison~%!3^3*+_~-vs~((cFI~&sz  ENTER`  $`^&+-<~2_Eentry~)!a~&/[^)-CB~&&-data~%(t`ENTRY;~*]=_~)!4~.AR~%!: *h~(O,~&",
    "!3^((4?~&%[ ^(,'n^8%[Oh^(-92~*3[el~9)hhdestroy^(&3P^7,yA~%Tt~'&9~'%r~%+X~0,L~&&V *tabl^'+-/^.%uS^''pN~/!:filled~',N~/&K~'%=r~?'6,~('i~%DCtval^*(!f~3&4 *__htab^6",
    "-SO~''o_r~.'q,~O!q~-(4~%!s~F!e~.Cl^1%'%preorder,`  post~)!0end~)!/leaf`$`VISIT^2-U:t~(+8~,.<^'.1m^),B]root^+-lm~..=~(!1)~3%,fi^*-K;~3%*^*%g*~,%0~;%.~.%-^)-2G~-%",
    "/^+%fJkey~*&1~*&J~*!E~J&U~*2g~&+D~12g~,!:^-%vj(^),2x~42h__nodep, ~%(v^(&r)^2+%[level~-J-~,'2twalk~1'/oot, ~-%M~*0h;~<cV~*!|_r~5%%~('Y~'&_~R&P~(!Lclosure)~.!x~+!",
    "<^2%zi(*__free~('x~-%C~1*Pt~-2b~,'=~)!k~'!/f^,*XD~1,Ml~9,M~.!6base~(&I^**7Nnmemb~+Bu^&'in~J-yl~B/*~.%I~_%K^C%n<stdio_ext^B+M0STDIO_EXT^,%nG~+!8^/*v>^(.Nz^)*6U  ",
    "FSETLOCKING_QUERY^.,?p~1!C\t~1!5`~0!nINTERNAL~6!m~(!B\t~4!8~0!rBYCALLER~5!q~(!A\t~5!V~%8r^8,SN~)),fbuf^.%wbfp^6,wi~&0Yfreading~J!Twrit~M!Treadabl~:%d~2%.~=!S~/!",
    "Tlbf~B!O^'('Bfpurg~B%X~*'upen~='B~-%-flush~%%_^)('M~/&%setlock~/!y^((>Otype^O,wwsysexit^K&NL\t_SYSEXI^.,;I~*!7^;-4+~C!!~(,TEX_OK\t\t0~-!5_BASE\t64~-!8^&.5g64~,!",
    "7DATAERR\t65~,!9NOINPUT\t66~.!9USER\t67~.!8HOST\t68~-%9NAVAILABLE\t69~,!=SOFTWARE\t70~-&=SERR\t71~.!7FILE\t72~,!8CANTCREAT\t73~,!;IO~%!h~-&XTEMPFAIL\t7~-&YPROTO",
    "COL\t7~/&ZPERM\t7~-&ZCONFIG\t78~.(1MAX~&!7~4*Sta^?-&OTA^--&O~%!2^<(U]~Y*FTSUID\t^.-7xTSGID^&-7(~3S7^)+/'!^?%DcTSVTX^&-60^0%DUTUREAD\t^.-;xTUWRITE\t^.-;vTUEXEC\t",
    "^.-;sTG~'!g^,,?JTG~(!g^,-;nTG~'!g^,-;kTO~(!g^+-;hTO~)!g^+-;fTO~(!g^0.K|REGTYPE\t\t'0'~)!8A~(!9'\\~+!9LNK~'!O1~*!8SYM~'!82~*!8CHR~'!83~*!8BL~(!f4~*!8DI~(!N5~*!8F",
    "IFO~&%O6~+!|ONT~&!87'~-*'^'-Axustar\"~-!:LEN\t6~,!O~'hf\t\"00\"~.!9LEN\t2~7,n~%D's~?=P\t_VALUE~-37~(!5^F+if^*%TM~*>9TYPEBITS(~%5S\t^)(J/~&5e* CHAR_BIT^+((oCHARB",
    "ITS\t~)!d^&&d,^**S!SHORT~0!G^)&Iq~*!LIN~&!J~,!K~-!ELONG~0!o^)&,f~)!JPTR~1!n~'rJ~**1OUBLE~0!s^&&Og~*!JFLOA~1&4float~+''MIN~%&_\tSHRT_MI^)%LA\tMININT\t\tIN~1!;^&&",
    ";rLONG~%!=~*!>AX~,!tAX~,!=~*!t~.!;~,!tAX~*%mHI~&'/~(%u~.!<L\t~(%Y^-*ZB~%&[~,*A\tMAX~&'W\tDBL~0%L~%'K\tFL~/%hIN~,!W~.&|~+!W~+!<DMINEXP\t~(!V_EXP~)!AF~(!A~'!Z~-!A",
    "DMAX~*!aAX~/!a~'!A~'%v~%!A^5,c!~)4hBITSPERBYTE\t~(,w~>j(wordexp^=&Z2WORDEXP~,/5~)!6^i*hl^5,ss~(_WWRDE^(+7i=^'%]o^&)%,~'!?^'+7S~(!?1~,!?NOCM~*!>2~,!>REUSE~)!>3~,",
    "!>SHOWERR~)!A4~,!AUNDEF~)!>5~'!>__~%!AFLAG~%%z~,&1|~-%||~+%m~'OR|~,%e|~.%T|~+%F)~(by^7+/m~'G/we_word^.+/k~'!8^'+/k~*!N^(+/i$ ~'*6^&%EB~)(W^2(mn~,(1^*%d/^++6Y~(!",
    "?PACE^&+qB~)!9BAD^(&LD~*!5VAL~+!4CMDSUB~,(eYNTAX~(&z~+Hx~'&,^;&Nrword^(*u*~*&]~/!Ip~'!<^1,d8~-JZword~&ui~-!o~'!0~OJ2alias^?(lEALIAS^.(lD~)!6^S,'O~2.?~'g<~&%[nt~",
    "/n/~%!:_^&.k]~+*]~&!:members_len~-+:~-!B^*+1Y~&!:local~1kC~%(.set~(%W~2m?^/-K7d~C!N~/&V *g~E%/int ~+!M~+jg~*!p~.fLesult_^'*s!\t^6-s?^&%54^--z?^*-PH~1%/~4%0~N&ab",
    "y^')'i^1,ly~A&r~&!a~*eT~3&I^.+v3~P'E ~T'H ~T'K~C.Ycrypt^>%'5CRYP~-am~'!4 ^L+Y,~-J8~&!gOUTPUT_SIZE 384~2!EMAX_PASSPHRASE~&!M512~6!uGENSAL~.%%192~3&T^.(vMryp^1&ae",
    "phras^1+&-setting)`~,[7~.%UDATA_^''!OD~&%T7~+Uq~+!I~(cR~''&0720~*1i~%%h~&xq^'*x9~%%Toutput[~1'i]~*|]~'!N~'&&~9!O~'!Kin~*!w~3(A~)%'~'!Sreserved[~8&l~0!Uinitializ",
    "^&/!K~+!;ternal[~8'8];^/-*w~+),~2.t~=).,^*%9m~-!!~1(>~/.kdata~.)n~8*m_^3%Uj~U%e~)n-data^.-=j~2%W~6%Ya~p%Y~-%Z*~<%[~>%igensal~2.Arefix,^/&YO_^&-H=~9%n~&3v~.4|byt",
    "e^)+lgn~&!2~3&!~:%n~4)B~[%q~G%t~C!k~'!e~&0)~(!e~&!1~5(c~(5?IN_LIB~%.6^3,-f_NTH~.'2^1+=R~/'D,~7'D~?&<~6'e~6'C~?!r~.'d~0'B~F!d~,'c, ~0*)^-,%0~'5<~/!H~1!X^4%JF~<+:",
    "a~|+:~K-3~+?/~&%ocheck~4.|~(9*~38z~&:QK~.%_0~4!I^'&:C~)!I1~4!IMETHOD_DISABL^&%y+~9!ILEGACY  ^*,sv~,!ITOO_CHEAP~'%>4~00+~+&a~&'&preferred_method~,tY~7=NIMPLEMEN^",
    "*,z<^'%x7~1&Z~3!VAUTO_ENTROPY~%'7~1%6CHECK~%![~)qK~1%(PREFERRED~('>~,!O~*!xX~&!R~'g._MAJOR^+-BY~0!CIN~%!C~9!gNUM ((~5%!^)+<3\\~>,7~4%C)~:%BSTR \"4.4.36\"~EEpfst",
    "ab^L'K-FSTAB~,F%~'!4~GrA~)[jPATH~&!b^6'E*~&!>~.!?~.!A_RW\t\"rw~/!W_RQ\t\"rq~1!9O\t\"ro~0!9SW\t\"s~1!iXX\t\"xx\"~)DO~%%N~/R9fs_^(';Y~+!6fi^(%AL~)!6vfstyp~0!9mnto",
    "p~'R<~,.<fs_~*!Rint\tfs_freq~-!4passno~)Rh~/J2~.O8~%&7~%O5f~5Qp~:!Rsp^0%b6~1Ob~:!dfile~G!dint s~?%q~(Tp~6!I~D,kg^8+PV~-,aG^0+PZG^B+PZ^4'Dm__mb^&.het~9!Hwint_t^<",
    "%Rb~.!9^='E;~+!Q^'/X:_10646_CHAR\t((~'!d)^&+I=d^++I=  _~'&d^(-RN~*!5NOCONV~.!5DB~.!3ME^'+*Y~'!5^&&W&INPUT~,!MFULL~'MR~,!:ILLEGAL~2!TINCOMPLETE~(!?~3!ZDESCRIPTOR",
    "~.!b~'Lj^&&F3~']=~0&mIS_LAS^(-bZ01~-!i^&*R|~%!gS~(!F2~,!FSWAP~(!<4~,!<^(*SG~(!A8^./Q<__~%+c_ste^*/b5~,!8~%J7~1!=loaded^''ji^1'B)(*~(!Lfct)~)_1~,%&^,)(/~0%= *^/%",
    "tU^/&C/^)%UL~/!;~)!Z~2!T~'ZF^+)<e)~,lA~&-*~+&3btowc~>&9~-%4);~9'*init~<!q);^2%Eb~&!Dend~?!_~6)H~%+.~<)0~%Cfhlib^')<,;`~0E'mod^//ku~'Eser;^,&C*from~)hs^*+]<~'!6~",
    "%+b~)*4^&'A4;~+!8~)(9 _~*!/~,!E~('g _~)!.~,!C~''I _~(!-~-&+min~%24ed~%%z;~*!<ax~7!<~*!Vto~5!Tto;~+%1~%45ful^+/X*~&Sw;~:.A~([z~1,)^(+_D;~:!>end~-&a^,,'F~&!5inv^(",
    ")7=~*).~,!C~&Zp_us~((v~)6T^'%zR~%0;~.!<~'!;;^()J'^0->'~)),^''Vz~)gnnste~&=B~5,E__~)!D^-(GM~:0M~&(1[0];`$ ~)-X^+'7l^0+cCstlo^'-ti~*8:utmp.h>^2)r+intl^?'=!LIBINTL",
    "^/)r/~&!6~=Di~+9P^&%SU_GETTEXT~.J;_~,!>_SUPPORTED^))zK(major^((Dv~'!0== 0 ? 1 : -1)~4j,~-R,gett^3.Y:msgid^C)j/arg__ (1^3)d%d~7%)^&/lE~%o< ~_%D2)^/.dt__~|%C~-%C~",
    "1&fc~C%E^2)qs~%%H~(U9^**!>~]&z~H%W  ~t%Y~1'9n~<+*1~5(V2,^3/Rn^+'D[n~L+e~Q)?n~W*d1~8)V2,~c&>2~<&>3~5+[~a&? ~L&A~&!U~Z*Z~C&U~/&Wtext~&&A~:&W^5%UX~&!Kbind~E!j^8&Cy",
    "^'*+)~?%1_~*%2_codese~A.e\t~4db~'!b~.%<^.%LqOPTIMIZE^&&)]^4&1K^-'*n~&NKNULL^6)oe^-*&%^,+wg~,!m~'+2(~&3f ~*4HNULL, ~'4%~*!T~(!E(~,+U~'!d\\`  ~+25~1!F, ^+*IG~,%!n",
    "~-%V1~'!S2, n) ~+/J~+%f~-!H~,%rn~9%s~.%&~&&'n~:&(~,!S~1&4^J'WYm~%j'^=%4zM~%ea~,=V~(!5~)iQ^K.<%num ~&%D^'-&)~%BF~'!x~)j)^(&zT~'!;OK~+!0FREE~+!2HEAD~+!2TAIL^*'s,~",
    "+YX~&%E^))Se__abortfunc)(~2%i)^9%dl~'!Kpedantic~W!x~,Z|~'!K~&!)all~-kV~'!M~2!w mprob^+&.+p^//1*~-%2^+.A=~7]Vmun~6!I~-*s~5*rns^8%RY~)*rNS^.*,5SS_H ^F.!:^3*6ustdi",
    "nt^=.!f^4%GV nss~,+LNSS_STATUS_TRYAGAIN = -~%X1~+!?^'%d1~/!9NOTFOU^&&/l~+!:^'08,~/!9RETURN~.N6gaih_addrtuple^0&-(~.!B^&)xT~,hF^*%>=int famil^'&0duint32_t addr[4",
    "]~/!9scopei^+&-L~0-W__nss_configure_looku^1%Dgdb~&73~?x/ ^A*.I^,&2R_netg^&-k0^/%9>~)!4ether~%'?~.!6~,!H^'/Pb~'!1host~,!Bne~-!2passwd~*!2roto~,!Drpc~,!2serv~-!3g",
    "r~*%:sp~+!q~%.'d~'ms^.&.S~++c~%!.^2%C(;~A!T~(&t~I!Tg~M!Q~''[~I!S~&(%~L!R~'%_~1)z~-_B~7!f~((x~I%>pw~L!Q~&)p~I!R~'*7~J!Sg~M!Qp~I!Q^>%Eo,^2%DA~F/;~,/G~(!p~%Y]~&NZ*",
    "~H%h^8%JP~N%T~X%Qcanon~6';~/!y`~S'6~&j6~'j=~E%a~(/8~+'6~)/L~|'6~.%Qg~/%N~%3a~3'4~K!wgid_r (__gid_^*&f6~(%(`~|&M~*%Qnam~9,w~|%V~1%Vhostbyaddr2^0&9', __socklen~'!",
    "x~Q.W~.8W~d,= ~-,6~%!*~%<V~N&e~u&d~s&c~O.u~&&Tname2~2*y~|)0~|&J~-&J3~|&J~y+W~W8!~N'74~1'7~W'2~0H=~d:8~|/H~;'1~93l~*)i`~_&N~T,6~.8+~i+F~S%Uton~9'C~W;A~X78ne~+4N~",
    "(Ni~&/G ~-Kr~Q))~b)(~%%j~=*p~|%i~A%i~.*m~T%U~e%R~0AN~,L(~|C%~.%Stohos^+%bJ~1S7~O%X~2-%~d.i~C&?~%O2~?+8~)OW~|Kr~9%humbe~%.n~,.d~[%a~b%c~.+D~X%V~Y%Qublickey~8MU~I",
    "!ow~/&B~%ZE~|HV~.%I~<J3~|%W~4%Wu~(M?u~-M?~|%R~2%Rrpc~?.J~'Xw~h5b~I%b~5.D~W%X~_%Z~.+w~T%P~X%Ksecret~;.9~P.Bserv~8)h~]F]~.h-~jNd~I&Iport~)*M~|&?~|&?~'&?~.+4~i%Q~I",
    "%Ng~/%Lgr~_[osg~<4.~'%,~|2S~*%Up~/&Pp~%3y~[!v~=&Pp~r5*~%YUnss_init^**Vp^('%f~)%H~+r%^&*mu~<&Binit~%aos_dyn~0&F~)cw^)%5S~P-m~+!]~(!t~%h0~(!;~O!u~E(nnet~%Zcuser^'",
    "&Q7[], ~':%~-%X~TP)~*!c~F%_^2&<h~B!T~*v5^&%Vj~?!Sg~L!P~)v3~F!R~(v2~I!Q~'%Z~5-:~Lv?s~*E]~H%L~'v>~F!P~(v=~F!Q~)v<~G!Rg~L!Pp~+!P^++5VSS_DECLARE_MODULE_FUNCTIONS(mo",
    "dule)~<,(\\`  ^(+5E^/%%k_nss_##~&!l##~,!?;~G!r~)+t~3!r~(!?~H!rg~8!og~9!l~8!r~(,X~3!t~'!>;~I!r~',x~3!q~&!=;~K%i~),u~6!tg~L'T~)-<~3!r~(!?~I!rw~8!ow~Q(K~'-|~3!s~&!",
    "=~L'T~(.B~3!s~'!>~J)B~&.b~4!pg~Q&_~&/)~4!rp~N!r^1%)b~0!z~0!E;~B!r~&>b~8!o~%!B;~C%i^,%(2~3!s~+!C;~A!r^+%'D~3!q~*!B~D%ig~:!og~7!l~:!r^&%&_~5!r~%!>~L!r~&C3~5!r~%!>",
    "~J!r^.%%?~3!x~-!E;~G!r~A!q~/%s~8!r~(yk~9!s~'!E;~G!r3~A!r3~J!r4~A!r4~J!r~A!q~F'T~9,(~)!A;~I*8~&r!~7!r~%!A~F!r~,q6~3!t~+!C;~F!r~:'S~+!C~E!r~9'S~(!?;~G-ln~=0Qn~:0T",
    "~3!r~)n,~4!q~(!A~F(K~.l]~3!v~-!E;~E!r~(aF~;!t~'!G;~=!r~9'T~*!B~D'T~*j>~4!q~(!A~G'Tw~:%fw~O5o~(ik~5!r~O4x~(i+~5!ru~N6f~,hI~3!v~+!C;~G!r~;*6~-!E;~?!r~9(L~(!?~H.c~",
    "*f=~3!s~)!A~F*8~-f8~5!u~*!D;~E!r~'db~9!r~&!D~D!r~9'U~)!A~G&_g~:!pg~O,u~(bW~5!r~O,u~(at~4!rp~P%ip~:%ip~L%i~%a=~0!lini~<Gd~;!r~+a<~4%!~*!C~>.c~-]b~0!p~,!A~C*8~,[t",
    "~0!q~+!?~E.c~,]7~3!r~MT>s~8QWs~<QT~8!r~8T>~*!>;~I!r~7T>~)!=;~K%in~;&c~MT>~,_X~3!r~MT>~)_w~4!ow~Q(K~7T>~)!=~L'T~8T>~*!>~J)B~6T>~(!<~N&_~6T>~(!<~=!r^F)PP_com^<'8H",
    " ^((7p^.)PR~'!6^&/qZ^*%mD^')QL>^<)Qn~A%=G^-'9d~*!5\t^+'U0#^&(,e\"The GNU C Library no~%o2er implements~'%kp.h>.\"~)!cPlease update your code to us~+&H instead (",
    "no trailing 'p').^*)u_"]

end CInspect.Includes
